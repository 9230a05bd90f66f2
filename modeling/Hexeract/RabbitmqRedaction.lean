import Hexeract.LibrarySplitting
import Mathlib.Data.Nat.Notation

/-! # Connection strings in logs

A connection string is logged without its user-info. The scheme is everything before the
first `://`, or before the first colon if there is none, and the user-info everything up to
the last at sign. -/
namespace RabbitmqRedaction

open LibrarySplitting

def redactedUri : List Char := "<redacted AMQP URI>".toList

def schemeSeparator : List Char := [':', '/', '/']

def splitScheme (uri : List Char) : Option (List Char × List Char) :=
  match splitOnce schemeSeparator uri with
  | some parts => some parts
  | none => (splitOnce [':'] uri).map fun parts =>
      (parts.1, trimStartMatches ['/', '/'] parts.2)

def hostAndPath (rest : List Char) : List Char :=
  match rsplitOnce '@' rest with
  | some parts => parts.2
  | none => rest

/-- The text of a scheme and a host, where a missing host gives the fixed text. -/
def shown (scheme host : List Char) : List Char :=
  if host = [] then redactedUri else scheme ++ "://***@".toList ++ host

def redactChars (uri : List Char) : List Char :=
  match splitScheme uri with
  | none => redactedUri
  | some (scheme, rest) => shown scheme (hostAndPath rest)

def redactUri (uri : String) : String := String.ofList (redactChars uri.toList)

/-! ## What a user-info gives away -/

inductive Exposure where
  | nothing
  | everythingCut
  | start (text : List Char)
  | everything (userInfo : List Char)
  deriving DecidableEq, Repr

/-- The first `://` decides, and it may stand in the user-info or in the host part. -/
def exposure (host userInfo : List Char) : Exposure :=
  if host = [] then .nothing
  else if ['/', '/'].isPrefixOf userInfo then .nothing
  else match splitOnce schemeSeparator userInfo with
    | some (before, _) => .start before
    | none =>
      match splitOnce schemeSeparator host with
      | none => .nothing
      | some (_, []) => .everythingCut
      | some (_, _ :: _) => .everything userInfo

section Redaction

variable {scheme host userInfo : List Char}

theorem hostAndPath_append (h : '@' ∉ host) : hostAndPath (userInfo ++ '@' :: host) = host := by
  rw [hostAndPath, rsplitOnce_append h]

theorem hostAndPath_of_not_mem (h : '@' ∉ host) : hostAndPath host = host := by
  rw [hostAndPath, rsplitOnce_of_not_mem h]

theorem at_not_mem_schemeSeparator : '@' ∉ schemeSeparator := by decide

theorem redactChars_separator (hs : ':' ∉ scheme) (hh : '@' ∉ host) :
    redactChars (scheme ++ schemeSeparator ++ (userInfo ++ '@' :: host)) = shown scheme host := by
  have split : splitScheme (scheme ++ schemeSeparator ++ (userInfo ++ '@' :: host)) =
      some (scheme, userInfo ++ '@' :: host) := by
    rw [splitScheme, schemeSeparator, List.append_assoc, splitOnce_append_left hs,
      List.cons_append, splitOnce_head]
    simp [List.isPrefixOf]
  rw [redactChars, split]
  exact congrArg (shown scheme) (hostAndPath_append hh)

/-- The text between the colon and the first `://`, and the host that is then shown. -/
def mistypedParts (host userInfo : List Char) : List Char × List Char :=
  if ['/', '/'].isPrefixOf userInfo then ([], host)
  else match splitOnce schemeSeparator userInfo with
    | some (before, _) => (':' :: before, host)
    | none =>
      match splitOnce schemeSeparator host with
      | none => ([], host)
      | some (before, after) => (':' :: (userInfo ++ '@' :: before), after)

theorem redactChars_colon (hs : ':' ∉ scheme) (hh : '@' ∉ host) :
    redactChars (scheme ++ ':' :: (userInfo ++ '@' :: host)) =
      shown (scheme ++ (mistypedParts host userInfo).1) (mistypedParts host userInfo).2 := by
  have slashes : ['/', '/'].isPrefixOf (userInfo ++ '@' :: host) =
      ['/', '/'].isPrefixOf userInfo := isPrefixOf_append_cons (by decide)
  rw [redactChars, splitScheme, schemeSeparator, splitOnce_append_left hs, splitOnce_head, slashes,
    mistypedParts]
  by_cases starts : ['/', '/'].isPrefixOf userInfo = true
  · -- the user-info completes the separator
    have short := (List.isPrefixOf_iff_prefix.mp starts).length_le
    rw [if_pos starts, if_pos starts, List.drop_append_of_le_length short]
    simp only [Option.map_some, List.append_nil, hostAndPath_append hh]
  · rw [if_neg starts, if_neg starts, splitOnce_append_cons at_not_mem_schemeSeparator]
    simp only [schemeSeparator]
    cases splitOnce [':', '/', '/'] userInfo with
    | some parts => simp only [Option.map_some, hostAndPath_append hh]
    | none =>
      cases found : splitOnce [':', '/', '/'] host with
      | some parts =>
        have clean : '@' ∉ parts.2 := by
          intro member
          apply hh
          rw [splitOnce_eq_some found]
          exact List.mem_append_right _ member
        simp only [Option.map_some, hostAndPath_of_not_mem clean]
      | none =>
        -- no separator anywhere, so the first colon splits
        have untrimmed := trimStartMatches_of_not_prefix
          (slashes.trans (eq_false_of_ne_true starts))
        have colon : splitOnce [':'] (scheme ++ ':' :: (userInfo ++ '@' :: host)) =
            some (scheme, userInfo ++ '@' :: host) := by
          rw [splitOnce_append_left hs, splitOnce_head]
          simp [List.isPrefixOf]
        simp only [Option.map_none, colon, Option.map_some, untrimmed, hostAndPath_append hh,
          List.append_nil]

end Redaction

section Independence

variable {scheme host userInfo : List Char}

theorem shown_inj {left right h k : List Char} (hh : '@' ∉ h) (hk : '@' ∉ k) :
    shown left h = shown right k ↔ (h = [] ∧ k = []) ∨ (left = right ∧ h = k) := by
  have colon : ∀ s l : List Char, redactedUri ≠ s ++ "://***@".toList ++ l := by
    intro s l same
    have member : ':' ∈ redactedUri := by
      rw [same]
      simp
    exact absurd member (by decide)
  rw [shown, shown]
  by_cases empty : h = []
  · rw [if_pos empty]
    by_cases other : k = []
    · simp [empty, other]
    · rw [if_neg other]
      simp only [colon, empty, other, Ne.symm other, and_false, or_self]
  · rw [if_neg empty]
    by_cases other : k = []
    · rw [if_pos other]
      simp only [(colon _ _).symm, empty, other, and_false, false_and, or_self]
    · rw [if_neg other]
      constructor
      · intro same
        -- the last at sign is the one that hides the user-info
        have mask : ∀ s l : List Char, s ++ "://***@".toList ++ l =
            (s ++ "://***".toList) ++ '@' :: l := by simp
        have split := congrArg (rsplitOnce '@') same
        rw [mask, mask, rsplitOnce_append hh, rsplitOnce_append hk] at split
        obtain ⟨front, back⟩ := Prod.mk.inj (Option.some.inj split)
        exact Or.inr ⟨List.append_cancel_right front, back⟩
      · rintro (⟨none, -⟩ | ⟨rfl, rfl⟩)
        · exact absurd none empty
        · rfl

inductive Mistyped (host userInfo : List Char) : Exposure → List Char × List Char → Prop where
  | nothing : Mistyped host userInfo .nothing ([], host)
  | start (before : List Char) : Mistyped host userInfo (.start before) (':' :: before, host)
  | everythingCut (before : List Char)
      (found : splitOnce schemeSeparator host = some (before, [])) :
      Mistyped host userInfo .everythingCut (':' :: (userInfo ++ '@' :: before), [])
  | everything (before : List Char) (c : Char) (after : List Char)
      (found : splitOnce schemeSeparator host = some (before, c :: after)) :
      Mistyped host userInfo (.everything userInfo)
        (':' :: (userInfo ++ '@' :: before), c :: after)

theorem mistyped_exposure (h : host ≠ []) (userInfo : List Char) :
    Mistyped host userInfo (exposure host userInfo) (mistypedParts host userInfo) := by
  rw [exposure, if_neg h, mistypedParts]
  by_cases starts : ['/', '/'].isPrefixOf userInfo = true
  · rw [if_pos starts, if_pos starts]
    exact .nothing
  · rw [if_neg starts, if_neg starts]
    cases splitOnce schemeSeparator userInfo with
    | some parts => exact .start parts.1
    | none =>
      rcases found : splitOnce schemeSeparator host with _ | ⟨before, after⟩
      · exact .nothing
      · cases after with
        | nil => exact .everythingCut before found
        | cons c after => exact .everything before c after found

theorem after_ne_host {before after : List Char}
    (found : splitOnce schemeSeparator host = some (before, after)) : host ≠ after := by
  intro same
  have parts := congrArg List.length (splitOnce_eq_some found)
  rw [same] at parts
  simp [schemeSeparator] at parts
  omega

/-- The texts agree exactly if the exposures do. -/
theorem Mistyped.agree_iff {u v : List Char} {e f : Exposure} {p q : List Char × List Char}
    (h : host ≠ []) (hu : Mistyped host u e p) (hv : Mistyped host v f q) :
    ((p.2 = [] ∧ q.2 = []) ∨ (p.1 = q.1 ∧ p.2 = q.2)) ↔ e = f := by
  cases hu with
  | nothing => cases hv <;> simp [h]
  | start before =>
    cases hv with
    | everything first c after found =>
      have other := after_ne_host found
      simp [h, other]
    | _ => simp [h]
  | everythingCut before found =>
    cases hv with
    | everything first c after again =>
      rw [found] at again
      cases again
    | _ => simp [h, Ne.symm h]
  | everything before c after found =>
    have other := after_ne_host found
    cases hv with
    | everything first d rest again =>
      rw [found] at again
      obtain ⟨rfl, rest⟩ := Prod.mk.inj (Option.some.inj again)
      simp [rest]
    | everythingCut first again =>
      rw [found] at again
      cases again
    | nothing => simp
    | start first => simp [Ne.symm other]

theorem mistypedParts_nil (userInfo : List Char) : (mistypedParts [] userInfo).2 = [] := by
  rw [mistypedParts]
  split
  · rfl
  · cases splitOnce schemeSeparator userInfo <;> rfl

theorem mistypedParts_clean (hh : '@' ∉ host) : '@' ∉ (mistypedParts host userInfo).2 := by
  rw [mistypedParts]
  split
  · exact hh
  · cases splitOnce schemeSeparator userInfo with
    | some parts => exact hh
    | none =>
      cases found : splitOnce schemeSeparator host with
      | none => exact hh
      | some parts =>
        intro member
        apply hh
        rw [splitOnce_eq_some found]
        exact List.mem_append_right _ member

theorem redactChars_colon_iff (hs : ':' ∉ scheme) (hh : '@' ∉ host) (u v : List Char) :
    redactChars (scheme ++ ':' :: (u ++ '@' :: host)) =
      redactChars (scheme ++ ':' :: (v ++ '@' :: host)) ↔ exposure host u = exposure host v := by
  rw [redactChars_colon hs hh, redactChars_colon hs hh,
    shown_inj (mistypedParts_clean hh) (mistypedParts_clean hh), List.append_cancel_left_eq]
  by_cases empty : host = []
  · subst empty
    simp [mistypedParts_nil, exposure]
  · exact Mistyped.agree_iff empty (mistyped_exposure empty u) (mistyped_exposure empty v)

end Independence

/-- The text that is logged does not depend on the user-info exactly if, behind a mistyped
separator, the two user-infos expose the same. -/
theorem redactUri_independent_iff (scheme host u v : String) (hs : ':' ∉ scheme.toList)
    (hh : '@' ∉ host.toList) :
    (redactUri (scheme ++ "://" ++ u ++ "@" ++ host) =
        redactUri (scheme ++ "://" ++ v ++ "@" ++ host) ∧
      redactUri (scheme ++ ":" ++ u ++ "@" ++ host) =
        redactUri (scheme ++ ":" ++ v ++ "@" ++ host)) ↔
      exposure host.toList u.toList = exposure host.toList v.toList := by
  have typed : ∀ userInfo : String, (scheme ++ "://" ++ userInfo ++ "@" ++ host).toList =
      scheme.toList ++ schemeSeparator ++ (userInfo.toList ++ '@' :: host.toList) := by
    intro userInfo
    simp [schemeSeparator]
  have mistyped : ∀ userInfo : String, (scheme ++ ":" ++ userInfo ++ "@" ++ host).toList =
      scheme.toList ++ ':' :: (userInfo.toList ++ '@' :: host.toList) := by
    intro userInfo
    simp
  simp only [redactUri, typed, mistyped, redactChars_separator hs hh, true_and,
    String.ofList_inj]
  exact redactChars_colon_iff hs hh u.toList v.toList

theorem redactUri_independent_iff_sample :
    redactUri "amqps:user:s3cr3t@host/vhost" = redactUri "amqps:guest@host/vhost" :=
  ((redactUri_independent_iff "amqps" "host/vhost" "user:s3cr3t" "guest" (by decide)
    (by decide)).mpr (by decide)).2

/-- A separator inside the password makes everything before it part of the scheme. -/
theorem mistyped_uri_exposes_password :
    redactUri "amqps:user:s3cr3t://x@host/vhost" = "amqps:user:s3cr3t://***@host/vhost" ∧
      redactUri "amqps:user:s3cr3t://x@host/vhost" ≠ redactUri "amqps:guest@host/vhost" := by
  decide +kernel

end RabbitmqRedaction
