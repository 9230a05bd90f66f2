import Mathlib.Algebra.Group.Nat.Defs
import Mathlib.Data.List.Basic
import Mathlib.Data.Set.Function

/-! # Self-delimiting byte encodings

A word that starts with a self-delimiting encoding determines the encoded value and
the place where it ends. Such encodings compose by concatenation, which is the whole
argument for the injectivity of a length-prefixed record. -/
namespace LibraryFramedBytes

abbrev Bytes := List UInt8

variable {α β : Type*} {D : α → Prop} {E : β → Prop}

/-- On the values satisfying `D`, the encoded value and the rest of the word are both
recovered from any word that starts with the encoding. -/
def SelfDelimiting (D : α → Prop) (enc : α → Bytes) : Prop :=
  ∀ a b x y, D a → D b → enc a ++ x = enc b ++ y → a = b ∧ x = y

theorem SelfDelimiting.inj {enc : α → Bytes} (h : SelfDelimiting D enc) {a b : α}
    (ha : D a) (hb : D b) (he : enc a = enc b) : a = b :=
  (h a b [] [] ha hb (by simpa using he)).1

theorem SelfDelimiting.append {e : α → Bytes} {f : β → Bytes}
    (h : SelfDelimiting D e) (k : SelfDelimiting E f) :
    SelfDelimiting (fun p : α × β => D p.1 ∧ E p.2) (fun p => e p.1 ++ f p.2) := by
  rintro ⟨a, b⟩ ⟨c, d⟩ x y ⟨ha, hb⟩ ⟨hc, hd⟩ he
  simp only [List.append_assoc] at he
  obtain ⟨hac, hrest⟩ := h a c _ _ ha hc he
  obtain ⟨hbd, hxy⟩ := k b d _ _ hb hd hrest
  exact ⟨Prod.ext hac hbd, hxy⟩

theorem SelfDelimiting.comap {e : β → Bytes} (h : SelfDelimiting E e) {g : α → β}
    (hg : ∀ a, D a → E (g a)) (hi : ∀ a b, D a → D b → g a = g b → a = b) :
    SelfDelimiting D (fun a => e (g a)) := by
  intro a b x y ha hb he
  obtain ⟨hab, hxy⟩ := h _ _ x y (hg a ha) (hg b hb) he
  exact ⟨hi a b ha hb hab, hxy⟩

/-- Big-endian digits of `n` in base 256, exactly `width` of them. -/
def bigEndian : ℕ → ℕ → Bytes
  | 0, _ => []
  | width + 1, n => bigEndian width (n / 256) ++ [UInt8.ofNat n]

@[simp] theorem length_bigEndian (width n : ℕ) : (bigEndian width n).length = width := by
  induction width generalizing n with
  | zero => rfl
  | succ width ih => simp [bigEndian, ih]

theorem bigEndian_inj {width n m : ℕ} (hn : n < 256 ^ width) (hm : m < 256 ^ width)
    (h : bigEndian width n = bigEndian width m) : n = m := by
  induction width generalizing n m with
  | zero => simp only [Nat.pow_zero] at hn hm; omega
  | succ width ih =>
    obtain ⟨hq, hr⟩ := List.append_inj' h rfl
    have hdiv : n / 256 = m / 256 := by
      apply ih _ _ hq
      · rw [Nat.pow_succ] at hn; omega
      · rw [Nat.pow_succ] at hm; omega
    have hmod : n % 256 = m % 256 := by
      have := congrArg UInt8.toNat (List.cons.inj hr).1
      simpa using this
    omega

theorem selfDelimiting_bigEndian (width : ℕ) :
    SelfDelimiting (fun n => n < 256 ^ width) (bigEndian width) := by
  intro n m x y hn hm he
  obtain ⟨hd, hxy⟩ := List.append_inj he (by simp)
  exact ⟨bigEndian_inj hn hm hd, hxy⟩

def frame (field : Bytes) : Bytes := bigEndian 4 field.length ++ field

theorem selfDelimiting_frame : SelfDelimiting (fun a => a.length < 2 ^ 32) frame := by
  intro a b x y ha hb he
  simp only [frame, List.append_assoc] at he
  obtain ⟨hlen, hrest⟩ := selfDelimiting_bigEndian 4 _ _ _ _ (by simpa using ha)
    (by simpa using hb) he
  exact List.append_inj hrest hlen

def optionalFrame : Option Bytes → Bytes
  | none => [0]
  | some field => 1 :: frame field

theorem selfDelimiting_optionalFrame :
    SelfDelimiting (fun a => ∀ b ∈ a, b.length < 2 ^ 32) optionalFrame := by
  intro a b x y ha hb he
  cases a with
  | none =>
    cases b with
    | none => exact ⟨rfl, (List.cons.inj he).2⟩
    | some b => simp [optionalFrame] at he
  | some a =>
    cases b with
    | none => simp [optionalFrame] at he
    | some b =>
      obtain ⟨hab, hxy⟩ := selfDelimiting_frame a b x y (ha a rfl) (hb b rfl)
        (List.cons.inj he).2
      exact ⟨congrArg some hab, hxy⟩

/-- An element count on four bytes, then the elements one after another. -/
def counted (enc : α → Bytes) (l : List α) : Bytes :=
  bigEndian 4 l.length ++ l.flatMap enc

theorem flatMap_cancel {enc : α → Bytes} (h : SelfDelimiting D enc) :
    ∀ {l k : List α} {x y : Bytes}, l.length = k.length → (∀ a ∈ l, D a) → (∀ a ∈ k, D a) →
      l.flatMap enc ++ x = k.flatMap enc ++ y → l = k ∧ x = y := by
  intro l
  induction l with
  | nil =>
    intro k x y hlen _ _ he
    obtain rfl := List.length_eq_zero_iff.mp hlen.symm
    exact ⟨rfl, by simpa using he⟩
  | cons a l ih =>
    intro k x y hlen hl hk he
    cases k with
    | nil => simp at hlen
    | cons b k =>
      simp only [List.flatMap_cons, List.append_assoc] at he
      obtain ⟨rfl, hrest⟩ := h a b _ _ (hl a List.mem_cons_self) (hk b List.mem_cons_self) he
      obtain ⟨rfl, hxy⟩ := ih (by simpa using hlen)
        (fun c hc => hl c (List.mem_cons_of_mem _ hc))
        (fun c hc => hk c (List.mem_cons_of_mem _ hc)) hrest
      exact ⟨rfl, hxy⟩

theorem selfDelimiting_counted {enc : α → Bytes} (h : SelfDelimiting D enc) :
    SelfDelimiting (fun l => l.length < 2 ^ 32 ∧ ∀ a ∈ l, D a) (counted enc) := by
  intro l k x y hl hk he
  simp only [counted, List.append_assoc] at he
  obtain ⟨hlen, hrest⟩ := selfDelimiting_bigEndian 4 _ _ _ _ (by simpa using hl.1)
    (by simpa using hk.1) he
  exact flatMap_cancel h hlen hl.2 hk.2 hrest

end LibraryFramedBytes
