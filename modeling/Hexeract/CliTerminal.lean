import Hexeract.LibraryCodes
import Hexeract.BusResponder
import Hexeract.RabbitmqMetadata

/-! # Untrusted text on the terminal

`hexeract bus peek` prints what anyone may have put on a queue. Characters that steer a
terminal or hide text are written as backslash escapes, and a payload is cut to a number of
bytes before it is escaped. -/
namespace CliTerminal

open LibraryCodes LibraryFramedBytes BusEnvelope RabbitmqMetadata
open BusResponder (isControl)

/-! ## Escaping -/

def shortEscapes : List (Char × Char) :=
  [('\x00', '0'), ('\t', 't'), ('\r', 'r'), ('\n', 'n'), ('\\', '\\')]

/-- The debug escape of a backslash or of a character that is not printable: one letter, or
the code point in hexadecimal digits between braces. -/
def escapeDebug (c : Char) : List Char :=
  match shortEscapes.lookup c with
  | some letter => ['\\', letter]
  | none => '\\' :: 'u' :: '\x7b' :: (Nat.toDigits 16 c.toNat ++ ['\x7d'])

def isUnsafeCharacter (c : Char) : Bool :=
  isControl c || c = '\\' || c.toNat = 0x061C || c.toNat = 0x200B ||
    (0x200E ≤ c.toNat && c.toNat ≤ 0x200F) || (0x2028 ≤ c.toNat && c.toNat ≤ 0x202E) ||
    (0x2060 ≤ c.toNat && c.toNat ≤ 0x2064) || (0x2066 ≤ c.toNat && c.toNat ≤ 0x2069) ||
    c.toNat = 0xFEFF

def escapeLoop (escaped : List Char) : List Char → List Char
  | [] => escaped
  | c :: rest =>
    if isUnsafeCharacter c then escapeLoop (escaped ++ escapeDebug c) rest
    else escapeLoop (escaped ++ [c]) rest

/-- Text without such characters is returned as it is. -/
def escapeUnsafeCharacters (value : String) : String :=
  if value.toList.any isUnsafeCharacter then String.ofList (escapeLoop [] value.toList)
  else value

/-! ## The preview of a payload -/

structure PeekArgs where
  raw : Bool
  maxBytes : ℕ

def truncationMarker : String := " ...<truncated, use --raw or --max-bytes to see more>"

/-- The loop that looks for a place to cut, from the byte limit down. -/
def boundaryBelow (bytes : Bytes) : ℕ → ℕ
  | 0 => 0
  | index + 1 =>
    if isCharBoundary bytes (index + 1) then index + 1 else boundaryBelow bytes index

/-- Slicing a string up to a byte, which panics inside a character. -/
def sliceTo (value : String) (index : ℕ) : Option String :=
  (getUpTo (utf8 value) index).bind fromUtf8

def truncatePayload (payload : String) (maxBytes : ℕ) : Option (String × Bool) :=
  if (utf8 payload).length ≤ maxBytes then some (payload, false)
  else do
    let shown ← sliceTo payload (boundaryBelow (utf8 payload) maxBytes)
    return (shown, true)

def PeekArgs.renderPayload (args : PeekArgs) (payload : String) : Option String :=
  if args.raw then some payload
  else do
    let (shown, truncated) ← truncatePayload payload args.maxBytes
    let escaped := escapeUnsafeCharacters shown
    return if truncated then escaped ++ truncationMarker else escaped

/-! ## Reading escaped text back -/

def rendered (c : Char) : List Char := if isUnsafeCharacter c then escapeDebug c else [c]

theorem escapeLoop_eq (escaped text : List Char) :
    escapeLoop escaped text = escaped ++ text.flatMap rendered := by
  induction text generalizing escaped with
  | nil => simp [escapeLoop]
  | cons c rest ih =>
    rw [escapeLoop, List.flatMap_cons, rendered]
    split
    · rw [ih, List.append_assoc]
    · rw [ih, List.append_assoc]

theorem toList_escape (value : String) :
    (escapeUnsafeCharacters value).toList = value.toList.flatMap rendered := by
  unfold escapeUnsafeCharacters
  split
  · rw [String.toList_ofList, escapeLoop_eq, List.nil_append]
  · rename_i harmless
    have single : ∀ c ∈ value.toList, rendered c = [c] := by
      intro c member
      rw [rendered, if_neg fun h => harmless (List.any_eq_true.mpr ⟨c, member, h⟩)]
    rw [List.flatMap_congr single, List.flatMap_singleton']

theorem mem_shortEscapes {c letter : Char} (h : shortEscapes.lookup c = some letter) :
    (c, letter) ∈ shortEscapes := by
  obtain ⟨_, _, table, _⟩ := List.lookup_eq_some_iff.mp h
  rw [table]
  simp

theorem shortEscapes_spec :
    (∀ p ∈ shortEscapes, ∀ q ∈ shortEscapes, p.2 = q.2 → p = q) ∧
      ∀ p ∈ shortEscapes, p.2 ≠ 'u' ∧ (isUnsafeCharacter p.2 = true → p.2 = '\\') := by
  decide

theorem mem_hexDigits {n : ℕ} {c : Char} (h : c ∈ Nat.toDigits 16 n) :
    ∃ d < 16, c = Nat.digitChar d := by
  induction n using Nat.strongRecOn with
  | ind n ih =>
    rw [Nat.toDigits_eq_if (by decide)] at h
    split at h
    · rename_i small
      exact ⟨n, small, List.mem_singleton.mp h⟩
    · rcases List.mem_append.mp h with h | h
      · exact ih (n / 16) (by omega) h
      · exact ⟨n % 16, Nat.mod_lt _ (by decide), List.mem_singleton.mp h⟩

theorem hexDigit_safe : ∀ d < 16, isUnsafeCharacter (Nat.digitChar d) = false ∧
    Nat.digitChar d ≠ '\x7d' ∧ ∀ e < 16, Nat.digitChar d = Nat.digitChar e → d = e := by
  decide

theorem hexDigits_injective {n m : ℕ} (same : Nat.toDigits 16 n = Nat.toDigits 16 m) : n = m := by
  induction n using Nat.strongRecOn generalizing m with
  | ind n ih =>
    rw [Nat.toDigits_eq_if (by decide), @Nat.toDigits_eq_if 16 m (by decide)] at same
    split at same <;> split at same
    · rename_i hn hm
      exact (hexDigit_safe n hn).2.2 m hm (List.cons.inj same).1
    · have longer := congrArg List.length same
      simp at longer
    · have longer := congrArg List.length same
      simp at longer
    · obtain ⟨high, low⟩ := List.append_inj' same rfl
      have quotient := ih (n / 16) (by omega) high
      have remainder := (hexDigit_safe (n % 16) (Nat.mod_lt _ (by decide))).2.2 (m % 16)
        (Nat.mod_lt _ (by decide)) (List.cons.inj low).1
      omega

theorem closing_not_mem (n : ℕ) : '\x7d' ∉ Nat.toDigits 16 n := by
  intro member
  obtain ⟨d, small, same⟩ := mem_hexDigits member
  exact (hexDigit_safe d small).2.1 same.symm

theorem escapeDebug_readsBack : ReadsBack escapeDebug := by
  intro c d x y same
  unfold escapeDebug at same
  cases hc : shortEscapes.lookup c with
  | some letter =>
    rw [hc] at same
    cases hd : shortEscapes.lookup d with
    | some other =>
      rw [hd] at same
      obtain ⟨_, same⟩ := List.cons.inj same
      obtain ⟨rfl, rest⟩ := List.cons.inj same
      have pair := shortEscapes_spec.1 _ (mem_shortEscapes hc) _ (mem_shortEscapes hd) rfl
      exact ⟨(Prod.mk.inj pair).1, rest⟩
    | none =>
      rw [hd] at same
      obtain ⟨_, same⟩ := List.cons.inj same
      exact absurd (List.cons.inj same).1 (shortEscapes_spec.2 _ (mem_shortEscapes hc)).1
  | none =>
    rw [hc] at same
    cases hd : shortEscapes.lookup d with
    | some other =>
      rw [hd] at same
      obtain ⟨_, same⟩ := List.cons.inj same
      exact absurd (List.cons.inj same).1.symm (shortEscapes_spec.2 _ (mem_shortEscapes hd)).1
    | none =>
      rw [hd] at same
      simp only [List.cons_append, List.append_assoc, List.nil_append, List.cons.injEq,
        true_and] at same
      obtain ⟨digits, rest⟩ := closed_word_inj (closing_not_mem _) (closing_not_mem _) same
      exact ⟨Char.toNat_inj.mp (hexDigits_injective digits), rest⟩

theorem escapeDebug_head (c : Char) : ∃ tail, escapeDebug c = '\\' :: tail := by
  unfold escapeDebug
  split
  · exact ⟨_, rfl⟩
  · exact ⟨_, rfl⟩

/-- Safe text cannot be taken for an escape: it has no backslash. -/
theorem rendered_readsBack : ReadsBack rendered := by
  intro c d x y same
  unfold rendered at same
  split at same
  · split at same
    · exact escapeDebug_readsBack c d x y same
    · rename_i safe
      obtain ⟨tail, head⟩ := escapeDebug_head c
      rw [head] at same
      obtain ⟨rfl, _⟩ := List.cons.inj same
      exact absurd (by decide) safe
  · rename_i safe
    split at same
    · obtain ⟨tail, head⟩ := escapeDebug_head d
      rw [head] at same
      obtain ⟨rfl, _⟩ := List.cons.inj same
      exact absurd (by decide) safe
    · exact List.cons.inj same

theorem rendered_ne_nil (c : Char) : rendered c ≠ [] := by
  obtain ⟨tail, head⟩ := escapeDebug_head c
  unfold rendered
  split
  · rw [head]
    exact List.cons_ne_nil _ _
  · exact List.cons_ne_nil _ _

theorem escape_injective : Function.Injective escapeUnsafeCharacters := by
  intro s t same
  apply String.ext
  apply flatMap_injective rendered_readsBack rendered_ne_nil
  dsimp only
  rw [← toList_escape, ← toList_escape, same]

/-! ## What is left of unsafe characters -/

theorem risky_mem_escapeDebug {d c : Char} {u v : List Char} (word : escapeDebug d = u ++ c :: v)
    (risky : isUnsafeCharacter c = true) :
    c = '\\' ∧ (u = [] ∨ u = ['\\'] ∧ v = []) := by
  unfold escapeDebug at word
  cases u with
  | nil =>
    refine ⟨?_, Or.inl rfl⟩
    split at word
    · exact (List.cons.inj word).1.symm
    · exact (List.cons.inj word).1.symm
  | cons e u =>
    split at word
    · rename_i letter found
      obtain ⟨rfl, tail⟩ := List.cons.inj word
      cases u with
      | nil =>
        obtain ⟨rfl, rfl⟩ := List.cons.inj tail
        exact ⟨(shortEscapes_spec.2 _ (mem_shortEscapes found)).2 risky, Or.inr ⟨rfl, rfl⟩⟩
      | cons e u => simp at tail
    · obtain ⟨_, word⟩ := List.cons.inj word
      have member : c ∈ 'u' :: '\x7b' :: (Nat.toDigits 16 d.toNat ++ ['\x7d']) := by
        rw [word]
        simp
      -- the tail of a numeric escape is letters, digits and braces
      have safe : isUnsafeCharacter c = false := by
        simp only [List.mem_cons, List.mem_append, List.not_mem_nil, or_false] at member
        rcases member with rfl | rfl | digit | rfl
        · decide
        · decide
        · obtain ⟨value, small, rfl⟩ := mem_hexDigits digit
          exact (hexDigit_safe value small).1
        · decide
      rw [safe] at risky
      cases risky

/-- In the escaped form of `s`, the escape of a character of `s` begins between `before` and
`rest`. -/
def BeginsEscape (s : String) (before rest : List Char) : Prop :=
  ∃ (front back : String) (d : Char), s.toList = front.toList ++ d :: back.toList ∧
    isUnsafeCharacter d = true ∧ before = (escapeUnsafeCharacters front).toList ∧
    rest = escapeDebug d ++ (escapeUnsafeCharacters back).toList

theorem risky_begins_escape {s : String} {before after : List Char} {c : Char}
    (text : (escapeUnsafeCharacters s).toList = before ++ c :: after)
    (risky : isUnsafeCharacter c = true) :
    c = '\\' ∧ (BeginsEscape s before (c :: after) ∨
      ∃ earlier, before = earlier ++ ['\\'] ∧ BeginsEscape s earlier ('\\' :: c :: after)) := by
  rw [toList_escape] at text
  obtain ⟨front, d, back, u, v, whole, word, rfl, rfl⟩ := flatMap_locate text
  have fromFront : front.flatMap rendered =
      (escapeUnsafeCharacters (String.ofList front)).toList := by
    rw [toList_escape, String.toList_ofList]
  have fromBack : back.flatMap rendered =
      (escapeUnsafeCharacters (String.ofList back)).toList := by
    rw [toList_escape, String.toList_ofList]
  have split : s.toList = (String.ofList front).toList ++ d :: (String.ofList back).toList := by
    rw [whole, String.toList_ofList, String.toList_ofList]
  unfold rendered at word
  split at word
  · rename_i escaped
    obtain ⟨rfl, rfl | ⟨rfl, rfl⟩⟩ := risky_mem_escapeDebug word risky
    · refine ⟨rfl, Or.inl ⟨_, _, d, split, escaped, ?_, ?_⟩⟩
      · rw [List.append_nil, fromFront]
      · rw [word, fromBack]
        rfl
    · refine ⟨rfl, Or.inr ⟨_, rfl, _, _, d, split, escaped, fromFront, ?_⟩⟩
      rw [word, fromBack]
      rfl
  · rename_i safe
    cases u with
    | nil =>
      obtain ⟨rfl, _⟩ := List.cons.inj word
      exact absurd risky safe
    | cons e u => simp at word

/-! ## Cutting between characters -/

/-- The bytes of a character after its first one carry six bits each. -/
theorem continuation_byte (c : Char) : ∀ index, 0 < index →
    index < (String.utf8EncodeChar c).length →
    ∃ n, (String.utf8EncodeChar c)[index]? = some (UInt8.ofNat (n % 64 + 128)) := by
  unfold String.utf8EncodeChar
  dsimp only
  split
  · intro index inside short
    rw [List.length_singleton] at short
    omega
  · split
    · intro index inside short
      simp only [List.length_cons, List.length_nil] at short
      interval_cases index
      exact ⟨_, rfl⟩
    · split
      · intro index inside short
        simp only [List.length_cons, List.length_nil] at short
        interval_cases index <;> exact ⟨_, rfl⟩
      · intro index inside short
        simp only [List.length_cons, List.length_nil] at short
        interval_cases index <;> exact ⟨_, rfl⟩

theorem continuation_not_boundary (n : ℕ) :
    (decide (UInt8.ofNat (n % 64 + 128) < 128) || decide (192 ≤ UInt8.ofNat (n % 64 + 128))) =
      false := by
  rw [Bool.or_eq_false_iff, decide_eq_false_iff_not, decide_eq_false_iff_not,
    UInt8.lt_iff_toNat_lt, UInt8.le_iff_toNat_le, UInt8.toNat_ofNat']
  simp only [UInt8.toNat_ofNat]
  omega

theorem boundary_of_append {front back : Bytes} {index : ℕ}
    (boundary : isCharBoundary (front ++ back) (front.length + index) = true) :
    isCharBoundary back index = true := by
  unfold isCharBoundary at boundary ⊢
  rw [List.getElem?_append_right (Nat.le_add_right _ _), Nat.add_sub_cancel_left,
    List.length_append] at boundary
  simp only [Bool.or_eq_true, beq_iff_eq] at boundary ⊢
  rcases boundary with (zero | last) | byte
  · exact Or.inl (Or.inl (by omega))
  · exact Or.inl (Or.inr (by omega))
  · exact Or.inr byte

theorem boundary_split {text : List Char} {index : ℕ}
    (within : index ≤ (text.flatMap String.utf8EncodeChar).length)
    (boundary : isCharBoundary (text.flatMap String.utf8EncodeChar) index = true) :
    ∃ front back, text = front ++ back ∧
      (text.flatMap String.utf8EncodeChar).take index = front.flatMap String.utf8EncodeChar := by
  induction text generalizing index with
  | nil => exact ⟨[], [], rfl, by simp⟩
  | cons c text ih =>
    rw [List.flatMap_cons] at within boundary ⊢
    rw [List.length_append] at within
    by_cases start : index = 0
    · subst start
      exact ⟨[], c :: text, rfl, rfl⟩
    by_cases short : index < (String.utf8EncodeChar c).length
    · obtain ⟨n, byte⟩ := continuation_byte c index (Nat.pos_of_ne_zero start) short
      have last : index ≠ (String.utf8EncodeChar c ++
          text.flatMap String.utf8EncodeChar).length := by
        rw [List.length_append]
        omega
      have here : (String.utf8EncodeChar c ++ text.flatMap String.utf8EncodeChar)[index]? =
          some (UInt8.ofNat (n % 64 + 128)) := by
        rw [List.getElem?_append_left short, byte]
      simp only [isCharBoundary, here, continuation_not_boundary, beq_false_of_ne start,
        beq_false_of_ne last, Bool.or_false] at boundary
      cases boundary
    · obtain ⟨rest, rfl⟩ := Nat.exists_eq_add_of_le (not_lt.mp short)
      obtain ⟨front, back, rfl, taken⟩ := ih (by omega) (boundary_of_append boundary)
      refine ⟨c :: front, back, rfl, ?_⟩
      rw [List.take_length_add_append, taken, List.flatMap_cons]

theorem boundaryBelow_spec (bytes : Bytes) (limit : ℕ) :
    isCharBoundary bytes (boundaryBelow bytes limit) = true ∧
      boundaryBelow bytes limit ≤ limit := by
  induction limit with
  | zero => exact ⟨rfl, Nat.le_refl _⟩
  | succ limit ih =>
    rw [boundaryBelow]
    split
    · rename_i boundary
      exact ⟨boundary, Nat.le_refl _⟩
    · exact ⟨ih.1, Nat.le_succ_of_le ih.2⟩

theorem sliceTo_boundary {value : String} {index : ℕ} (within : index ≤ (utf8 value).length)
    (boundary : isCharBoundary (utf8 value) index = true) :
    ∃ front back, value = front ++ back ∧ sliceTo value index = some front ∧
      (utf8 front).length = index := by
  have bytes : utf8 value = value.toList.flatMap String.utf8EncodeChar := by
    rw [← utf8_ofList, String.ofList_toList]
  have start := boundary
  have room := within
  rw [bytes] at start room
  obtain ⟨front, back, whole, taken⟩ := boundary_split room start
  rw [← bytes, ← utf8_ofList] at taken
  refine ⟨String.ofList front, String.ofList back, ?_, ?_, ?_⟩
  · rw [← String.ofList_append, ← whole, String.ofList_toList]
  · rw [sliceTo, getUpTo, if_pos boundary, Option.bind_some, taken, fromUtf8_utf8]
  · rw [← taken, List.length_take, Nat.min_eq_left within]

/-- Cutting never panics, and cuts exactly when the payload is longer than the limit. -/
theorem truncatePayload_spec (payload : String) (maxBytes : ℕ) :
    ∃ shown rest, payload = shown ++ rest ∧ (utf8 shown).length ≤ maxBytes ∧
      truncatePayload payload maxBytes = some (shown, decide (rest ≠ "")) := by
  unfold truncatePayload
  split
  · rename_i fits
    exact ⟨payload, "", String.append_empty.symm, fits, rfl⟩
  · rename_i long
    obtain ⟨boundary, below⟩ := boundaryBelow_spec (utf8 payload) maxBytes
    obtain ⟨shown, rest, whole, sliced, size⟩ := sliceTo_boundary (by omega) boundary
    have more : rest ≠ "" := by
      rintro rfl
      rw [String.append_empty] at whole
      rw [whole, size] at long
      omega
    refine ⟨shown, rest, whole, by omega, ?_⟩
    rw [sliced, decide_eq_true more]
    rfl

/-! ## Escapes and previews -/

/-- Escaping loses nothing. Of the unsafe characters only backslashes are left, where an
escape begins and as the second half of an escaped backslash. A preview is the escape of the
start of the payload, marked when something is missing. -/
theorem escape_faithful :
    (∀ s t, escapeUnsafeCharacters s = escapeUnsafeCharacters t → s = t) ∧
    (∀ s before c after, (escapeUnsafeCharacters s).toList = before ++ c :: after →
      isUnsafeCharacter c = true → c = '\\' ∧ (BeginsEscape s before (c :: after) ∨
        ∃ earlier, before = earlier ++ ['\\'] ∧
          BeginsEscape s earlier ('\\' :: c :: after))) ∧
    ∀ payload maxBytes, ∃ shown rest, payload = shown ++ rest ∧ (utf8 shown).length ≤ maxBytes ∧
      PeekArgs.renderPayload ⟨false, maxBytes⟩ payload =
        some (escapeUnsafeCharacters shown ++ if rest ≠ "" then truncationMarker else "") := by
  refine ⟨fun s t => @escape_injective s t, ?_, ?_⟩
  · intro s before c after text risky
    exact risky_begins_escape text risky
  · intro payload maxBytes
    obtain ⟨shown, rest, whole, size, cut⟩ := truncatePayload_spec payload maxBytes
    refine ⟨shown, rest, whole, size, ?_⟩
    rw [PeekArgs.renderPayload, if_neg Bool.false_ne_true, cut]
    by_cases more : rest ≠ ""
    · rw [if_pos more, decide_eq_true more]
      rfl
    · rw [if_neg more, decide_eq_false more, String.append_empty]
      rfl

/-- A lone backslash becomes two, and the second one begins no escape. -/
theorem second_backslash_begins_nothing :
    (escapeUnsafeCharacters "\\").toList = ['\\'] ++ '\\' :: [] ∧
      isUnsafeCharacter '\\' = true ∧ ¬ BeginsEscape "\\" ['\\'] ['\\'] := by
  refine ⟨by decide, by decide, ?_⟩
  rintro ⟨front, back, d, whole, _, first, _⟩
  have empty : front.toList = [] := by
    have lengths := congrArg List.length whole
    have single : "\\".toList.length = 1 := by decide
    rw [List.length_append, List.length_cons, single] at lengths
    exact List.length_eq_zero_iff.mp (by omega)
  rw [toList_escape, empty] at first
  cases first

end CliTerminal
