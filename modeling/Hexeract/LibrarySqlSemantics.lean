import Hexeract.LibraryTables
import Hexeract.LibrarySql

/-! # What statements of the fragment do

Evaluation is strict: a column that is not there, a parameter that is not bound or operands
that do not compare make a statement `malformed`. Conditions are three-valued, and only
those that are true select. -/
namespace LibrarySql

open LibraryCollections

variable {κ τ β δ : Type}

/-- Documents are stored and read back, never compared. -/
inductive Value (κ τ β : Type) where
  | null
  | int (n : ℤ)
  | text (s : String)
  | truth (b : Bool)
  | key (k : κ)
  | instant (t : τ)
  | document (b : β)
  deriving DecidableEq, Repr

def Value.isNull : Value κ τ β → Bool
  | .null => true
  | _ => false

def nullable {α : Type} (f : α → Value κ τ β) : Option α → Value κ τ β
  | none => .null
  | some a => f a

@[simp] theorem isNull_nullable_instant (value : Option τ) :
    (nullable .instant value : Value κ τ β).isNull = value.isNone := by
  cases value <;> rfl

@[simp] theorem isNull_nullable_text (value : Option String) :
    (nullable .text value : Value κ τ β).isNull = value.isNone := by
  cases value <;> rfl

inductive Bound (κ τ β δ : Type) where
  | one (value : Value κ τ β)
  | many (values : List (Value κ τ β))
  | span (span : δ)

abbrev Row (κ τ β : Type) := List (String × Value κ τ β)

/-- One statement's surroundings: the clock it reads, what it compares truth values with,
whether assignments see those before them, the rows other transactions hold, and what is
bound to its markers. -/
structure Session (κ τ β δ : Type) where
  now : τ
  later : δ → τ
  truth : Bool → Value κ τ β
  inTurn : Bool
  isLocked : Row κ τ β → Bool
  bound : List (Bound κ τ β δ)

inductive Truth where
  | yes
  | no
  | unknown
  deriving DecidableEq, Repr

def Truth.ofBool (b : Bool) : Truth := if b then .yes else .no

def Truth.isYes : Truth → Bool
  | .yes => true
  | _ => false

def Truth.and : Truth → Truth → Truth
  | .no, _ | _, .no => .no
  | .yes, .yes => .yes
  | _, _ => .unknown

def Truth.or : Truth → Truth → Truth
  | .yes, _ | _, .yes => .yes
  | .no, .no => .no
  | _, _ => .unknown

@[simp] theorem isYes_ofBool (b : Bool) : (Truth.ofBool b).isYes = b := by cases b <;> rfl

@[simp] theorem isYes_and (a b : Truth) : (a.and b).isYes = (a.isYes && b.isYes) := by
  cases a <;> cases b <;> rfl

@[simp] theorem isYes_or (a b : Truth) : (a.or b).isYes = (a.isYes || b.isYes) := by
  cases a <;> cases b <;> rfl

/-! ## Terms and conditions -/

structure Scope (κ τ β : Type) where
  table : String
  row : Row κ τ β
  partner : Option (String × Row κ τ β)

def Scope.empty : Scope κ τ β := ⟨"", [], none⟩

def Scope.column (scope : Scope κ τ β) (name : String) : Option (Value κ τ β) :=
  scope.row.lookup name <|> scope.partner.bind fun partner => partner.2.lookup name

def Scope.member (scope : Scope κ τ β) (table name : String) : Option (Value κ τ β) :=
  match scope.partner with
  | some (other, row) =>
    if table = other then row.lookup name
    else if table = scope.table then scope.row.lookup name else none
  | none => if table = scope.table then scope.row.lookup name else none

def Session.at (s : Session κ τ β δ) : ℕ → Option (Bound κ τ β δ)
  | 0 => none
  | position + 1 => s.bound[position]?

def Term.eval (s : Session κ τ β δ) (scope : Scope κ τ β) : Term → Option (Value κ τ β)
  | .column name => scope.column name
  | .member table name => scope.member table name
  | .param position =>
    match s.at position with
    | some (.one value) => some value
    | _ => none
  | .number n => some (.int n)
  | .null => some .null
  | .truth b => some (s.truth b)
  | .now => some (.instant s.now)
  | .later position =>
    match s.at position with
    | some (.span span) => some (.instant (s.later span))
    | _ => none
  | .plus name n =>
    match scope.column name with
    | some (.int m) => some (.int (m + n))
    | some .null => some .null
    | _ => none

variable [DecidableEq κ] [LinearOrder τ]

def Comparison.holds {α : Type} [LinearOrder α] : Comparison → α → α → Bool
  | .eq, a, b => decide (a = b)
  | .lt, a, b => decide (a < b)
  | .le, a, b => decide (a ≤ b)
  | .ge, a, b => decide (b ≤ a)

def Comparison.apply (c : Comparison) : Value κ τ β → Value κ τ β → Option Truth
  | .null, _ | _, .null => some .unknown
  | .int a, .int b => some (.ofBool (Comparison.holds c a b))
  | .instant a, .instant b => some (.ofBool (Comparison.holds c a b))
  | .text a, .text b => if c = .eq then some (.ofBool (decide (a = b))) else none
  | .truth a, .truth b => if c = .eq then some (.ofBool (decide (a = b))) else none
  | .key a, .key b => if c = .eq then some (.ofBool (decide (a = b))) else none
  | _, _ => none

section Comparisons

variable (c : Comparison)

@[simp] theorem apply_int (a b : ℤ) :
    c.apply (.int a) (.int b : Value κ τ β) = some (.ofBool (c.holds a b)) := rfl

@[simp] theorem apply_instant (a b : τ) :
    c.apply (.instant a) (.instant b : Value κ τ β) = some (.ofBool (c.holds a b)) := rfl

@[simp] theorem apply_key (a b : κ) :
    Comparison.eq.apply (.key a) (.key b : Value κ τ β) = some (.ofBool (decide (a = b))) := rfl

@[simp] theorem apply_truth (a b : Bool) :
    Comparison.eq.apply (.truth a) (.truth b : Value κ τ β) =
      some (.ofBool (decide (a = b))) := rfl

/-- A null compares as true with nothing. -/
@[simp] theorem apply_nullable_instant (value : Option τ) (t : τ) :
    (c.apply (nullable .instant value) (.instant t : Value κ τ β)).map Truth.isYes =
      some (value.any fun u => c.holds u t) := by
  cases value with
  | none => rfl
  | some u => exact congrArg some (isYes_ofBool _)

end Comparisons

def equalRows : List (Value κ τ β) → List (Value κ τ β) → Option Truth
  | [], [] => some .yes
  | a :: as, b :: bs => do
    return (← Comparison.apply .eq a b).and (← equalRows as bs)
  | _, _ => none

def anyTrue : List Truth → Truth
  | [] => .no
  | t :: rest => t.or (anyTrue rest)

@[simp] theorem isYes_anyTrue (truths : List Truth) :
    (anyTrue truths).isYes = truths.any Truth.isYes := by
  induction truths with
  | nil => rfl
  | cons t rest ih => rw [anyTrue, isYes_or, ih, List.any_cons]

def equalsRow (s : Session κ τ β δ) (scope : Scope κ τ β) (left : List (Value κ τ β))
    (row : List Term) : Option Truth := do
  equalRows left (← row.mapM (Term.eval s scope))

def Cond.eval (s : Session κ τ β δ) (scope : Scope κ τ β) : Cond → Option Truth
  | .compare c left right => do
    Comparison.apply c (← Term.eval s scope left) (← Term.eval s scope right)
  | .isNull term => return .ofBool (← Term.eval s scope term).isNull
  | .isNotNull term => return .ofBool !(← Term.eval s scope term).isNull
  | .among terms rows => do
    let left ← terms.mapM (Term.eval s scope)
    return anyTrue (← rows.mapM (equalsRow s scope left))
  | .both left right => return (← eval s scope left).and (← eval s scope right)
  | .either left right => return (← eval s scope left).or (← eval s scope right)

def Cond.selects (s : Session κ τ β δ) (c : Cond) (scope : Scope κ τ β) : Option Bool :=
  (Cond.eval s scope c).map Truth.isYes

section Conditions

variable {s : Session κ τ β δ} {scope : Scope κ τ β}

@[simp] theorem selects_both (left right : Cond) :
    (Cond.both left right).selects s scope =
      (left.selects s scope).bind fun a => (right.selects s scope).map fun b => a && b := by
  simp only [Cond.selects, Cond.eval]
  cases left.eval s scope <;> cases right.eval s scope <;> simp

@[simp] theorem selects_either (left right : Cond) :
    (Cond.either left right).selects s scope =
      (left.selects s scope).bind fun a => (right.selects s scope).map fun b => a || b := by
  simp only [Cond.selects, Cond.eval]
  cases left.eval s scope <;> cases right.eval s scope <;> simp

@[simp] theorem selects_isNull (term : Term) :
    (Cond.isNull term).selects s scope = (term.eval s scope).map Value.isNull := by
  simp only [Cond.selects, Cond.eval]
  cases term.eval s scope <;> simp

@[simp] theorem selects_isNotNull (term : Term) :
    (Cond.isNotNull term).selects s scope = (term.eval s scope).map fun v => !v.isNull := by
  simp only [Cond.selects, Cond.eval]
  cases term.eval s scope <;> simp

@[simp] theorem selects_compare (c : Comparison) (left right : Term) :
    (Cond.compare c left right).selects s scope =
      (left.eval s scope).bind fun a => (right.eval s scope).bind fun b =>
        (c.apply a b).map Truth.isYes := by
  simp only [Cond.selects, Cond.eval]
  cases left.eval s scope <;> cases right.eval s scope <;> simp

theorem selects_among {terms : List Term} {rows : List (List Term)} {left : List (Value κ τ β)}
    {truths : List Truth} (found : terms.mapM (Term.eval s scope) = some left)
    (compared : rows.mapM (equalsRow s scope left) = some truths) :
    (Cond.among terms rows).selects s scope = some (truths.any Truth.isYes) := by
  rw [Cond.selects, Cond.eval, found]
  simp only [Option.bind_eq_bind, Option.bind_some, compared]
  exact congrArg some (isYes_anyTrue truths)

theorem selects_passed {name : String} {value : Option τ}
    (found : scope.column name = some (nullable .instant value)) :
    (Cond.either (.isNull (.column name)) (.compare .le (.column name) .now)).selects s scope =
      some (value.all fun t => decide (t ≤ s.now)) := by
  simp only [selects_either, selects_isNull, selects_compare, Term.eval, found, Option.map_some,
    Option.bind_some, isNull_nullable_instant, apply_nullable_instant, Comparison.holds]
  cases value <;> rfl

end Conditions

/-! ## Queries -/

inductive Default (κ τ β : Type) where
  | nothing
  | fixed (value : Value κ τ β)
  | now
  | serial

structure Column (κ τ β : Type) where
  name : String
  required : Bool
  unique : Bool
  default : Default κ τ β

/-- `serial` is the number the next inserted row is given. -/
structure Relation (κ τ β : Type) where
  columns : List (Column κ τ β)
  serial : ℕ
  rows : List (Row κ τ β)

abbrev Database (κ τ β : Type) := String → Option (Relation κ τ β)

def keep {α : Type} (p : α → Option Bool) : List α → Option (List α)
  | [] => some []
  | a :: rest => do
    let kept ← keep p rest
    return if ← p a then a :: kept else kept

def compareBy (name : String) (descending : Bool) (a b : Row κ τ β) : Ordering :=
  let ordering := match a.lookup name, b.lookup name with
    | some (.int m), some (.int n) => compare m n
    | some (.instant t), some (.instant u) => compare t u
    | _, _ => .eq
  if descending then ordering.swap else ordering

/-- A limit is a number that is not negative. -/
def limited (s : Session κ τ β δ) (limit : Option Term) (rows : List (Row κ τ β)) :
    Option (List (Row κ τ β)) :=
  match limit with
  | none => some rows
  | some term =>
    match Term.eval s .empty term with
    | some (.int n) => if 0 ≤ n then some (rows.take n.toNat) else none
    | _ => none

def Query.selects (s : Session κ τ β δ) (q : Query) (row : Row κ τ β) : Option Bool := do
  let chosen ← match q.condition with
    | none => some true
    | some c => Cond.selects s c ⟨q.table, row, none⟩
  return chosen && !(q.skipLocked && s.isLocked row)

theorem Query.selects_of_condition {s : Session κ τ β δ} {q : Query} {c : Cond} {row : Row κ τ β}
    {b : Bool} (filtered : q.condition = some c)
    (chosen : c.selects s ⟨q.table, row, none⟩ = some b) :
    q.selects s row = some (b && !(q.skipLocked && s.isLocked row)) := by
  rw [Query.selects, filtered]
  simp only [chosen, Option.bind_eq_bind, Option.bind_some]
  rfl

def Query.chosen (s : Session κ τ β δ) (db : Database κ τ β) (q : Query) :
    Option (List (Row κ τ β)) := do
  let relation ← db q.table
  let kept ← keep (Query.selects s q) relation.rows
  limited s q.limit (match q.order with
    | none => kept
    | some (name, descending) => sortBy (compareBy name descending) kept)

def Query.run (s : Session κ τ β δ) (db : Database κ τ β) (q : Query) :
    Option (List (List (Value κ τ β))) := do
  (← Query.chosen s db q).mapM fun row => q.terms.mapM (Term.eval s ⟨q.table, row, none⟩)

/-! ## Updates -/

def assigned (name : String) (value : Value κ τ β) : Row κ τ β → Option (Row κ τ β)
  | [] => none
  | (n, old) :: rest =>
    if n = name then some ((n, value) :: rest)
    else (assigned name value rest).map fun rest => (n, old) :: rest

/-- `current` is the row as the assignments before left it. -/
def assign (s : Session κ τ β δ) (scope : Scope κ τ β) (current : Row κ τ β) :
    List (String × Term) → Option (Row κ τ β)
  | [] => some current
  | (name, term) :: rest => do
    let value ← Term.eval s (if s.inTurn then { scope with row := current } else scope) term
    assign s scope (← assigned name value current) rest

def Term.label : Term → Option String
  | .column name | .member _ name => some name
  | _ => none

/-- The rows that arrays form, read side by side; a shorter one is filled up with nulls. -/
def besides (columns : List String) (arrays : List (List (Value κ τ β))) : List (Row κ τ β) :=
  (List.range (arrays.foldr (fun values n => max values.length n) 0)).map fun i =>
    columns.zip (arrays.map fun values => values[i]?.getD .null)

omit [DecidableEq κ] [LinearOrder τ] in
theorem besides_pairs {α : Type} (columns : List String) (l : List α) (f g : α → Value κ τ β) :
    besides columns [l.map f, l.map g] = l.map fun a => columns.zip [f a, g a] := by
  apply List.ext_getElem
  · simp [besides]
  · intro i _ inside
    rw [List.length_map] at inside
    simp [besides, inside]

/-- What a row is joined with: one partner without columns where nothing is joined. The
joined name and the name of the updated table must differ. -/
def Source.partners (s : Session κ τ β δ) (db : Database κ τ β) (table : String) :
    Source → Option (List (Option (String × Row κ τ β)))
  | .nothing => some [none]
  | .query name q => if name = table then none else do
    let labels ← q.terms.mapM Term.label
    return (← q.run s db).map fun values => some (name, labels.zip values)
  | .arrays name positions columns => if name = table then none else do
    let arrays ← positions.mapM fun position =>
      match s.at position with
      | some (.many values) => some values
      | _ => none
    return (besides columns arrays).map fun row => some (name, row)

def Filter.selects (s : Session κ τ β δ) (db : Database κ τ β) :
    Filter → Option (Scope κ τ β → Option Bool)
  | .holds c => some (c.selects s)
  | .inQuery term q => do
    let found ← q.run s db
    return fun scope => do
      let value ← term.eval s scope
      let truths ← found.mapM (equalRows [value])
      return (anyTrue truths).isYes

/-- The row afterwards, and what is returned for it if it was selected. It is selected if
some partner is, and its assignments see the first of those. -/
def updateRow (s : Session κ τ β δ) (table : String) (sets : List (String × Term))
    (returning : List Term) (partners : List (Option (String × Row κ τ β)))
    (selects : Scope κ τ β → Option Bool) (row : Row κ τ β) :
    Option (Row κ τ β × Option (List (Value κ τ β))) := do
  match ← keep (fun partner => selects ⟨table, row, partner⟩) partners with
  | [] => return (row, none)
  | partner :: _ =>
    let updated ← assign s ⟨table, row, partner⟩ row sets
    return (updated, some (← returning.mapM (Term.eval s ⟨table, updated, partner⟩)))

/-! ## Insertions -/

inductive Failure where
  | malformed
  | missing (column : String)
  | duplicate (column : String)
  deriving DecidableEq, Repr

def Default.eval (s : Session κ τ β δ) (serial : ℕ) : Default κ τ β → Value κ τ β
  | .nothing => .null
  | .fixed value => value
  | .now => .instant s.now
  | .serial => .int serial

/-- Whether some stored row has this value; a null repeats nothing. -/
def isTaken (rows : List (Row κ τ β)) (name : String) (value : Value κ τ β) : Bool :=
  rows.any fun row =>
    (row.lookup name).any fun other => (Comparison.eq.apply value other).any Truth.isYes

theorem isTaken_map {α : Type} {l : List α} {f : α → Row κ τ β} {g : α → κ} {name : String}
    (keys : ∀ a, (f a).lookup name = some (.key (g a))) (k : κ) :
    isTaken (l.map f) name (.key k) = decide (k ∈ l.map g) := by
  rw [Bool.eq_iff_iff]
  simp only [isTaken, List.any_map, Function.comp_def, keys, Option.any_some, apply_key,
    isYes_ofBool, List.any_eq_true, decide_eq_true_eq, List.mem_map]
  exact exists_congr fun a => and_congr_right fun _ => eq_comm

/-- The row an insertion writes: what is given, and the defaults of the other columns. -/
def Relation.filled (s : Session κ τ β δ) (r : Relation κ τ β) (given : Row κ τ β) :
    Row κ τ β :=
  r.columns.map fun column =>
    (column.name, (given.lookup column.name).getD (column.default.eval s r.serial))

def Relation.store (s : Session κ τ β δ) (r : Relation κ τ β) (given : Row κ τ β) :
    Except Failure (Relation κ τ β) :=
  let row := r.filled s given
  if given.all fun entry => r.columns.any fun column => column.name == entry.1 then
    match r.columns.find? fun column =>
        column.required && (row.lookup column.name).any Value.isNull,
      r.columns.find? fun column => column.unique &&
        (row.lookup column.name).any (isTaken r.rows column.name) with
    | some column, _ => .error (.missing column.name)
    | none, some column => .error (.duplicate column.name)
    | none, none => .ok { r with serial := r.serial + 1, rows := r.rows ++ [row] }
  else .error .malformed

theorem Relation.store_of_complete {s : Session κ τ β δ} {r : Relation κ τ β}
    {given row : Row κ τ β} (filled : r.filled s given = row)
    (known : (given.all fun entry => r.columns.any fun column => column.name == entry.1) = true)
    (complete : (r.columns.find? fun column =>
      column.required && (row.lookup column.name).any Value.isNull) = none) :
    r.store s given =
      match r.columns.find? fun column => column.unique &&
        (row.lookup column.name).any (isTaken r.rows column.name) with
      | some column => .error (.duplicate column.name)
      | none => .ok { r with serial := r.serial + 1, rows := r.rows ++ [row] } := by
  simp only [Relation.store, filled, known, complete, if_true]
  cases r.columns.find? fun column => column.unique &&
    (row.lookup column.name).any (isTaken r.rows column.name) <;> rfl

/-- Rows are stored one after the other; the first that fails fails the statement. -/
def Relation.storeAll (s : Session κ τ β δ) (r : Relation κ τ β) :
    List (Row κ τ β) → Except Failure (Relation κ τ β)
  | [] => .ok r
  | row :: rest => do (← r.store s row).storeAll s rest

/-! ## Statements -/

structure Outcome (κ τ β : Type) where
  affected : ℕ
  returned : List (List (Value κ τ β))
  deriving DecidableEq, Repr

def wellFormed {α : Type} : Option α → Except Failure α
  | some a => .ok a
  | none => .error .malformed

def Database.set (db : Database κ τ β) (table : String) (r : Relation κ τ β) :
    Database κ τ β :=
  Function.update db table (some r)

omit [DecidableEq κ] [LinearOrder τ] in
theorem Database.set_stored {db : Database κ τ β} {table : String} {r : Relation κ τ β}
    (stored : db table = some r) : db.set table r = db := by
  rw [Database.set, ← stored, Function.update_eq_self]

def execUpdate (s : Session κ τ β δ) (db : Database κ τ β) (table : String)
    (sets : List (String × Term)) (source : Source) (filter : Filter) (returning : List Term) :
    Option (Database κ τ β × Outcome κ τ β) := do
  let r ← db table
  let partners ← source.partners s db table
  let selects ← filter.selects s db
  let pairs ← r.rows.mapM (updateRow s table sets returning partners selects)
  let selected := pairs.filterMap Prod.snd
  return (db.set table { r with rows := pairs.map Prod.fst },
    ⟨selected.length, if returning.isEmpty then [] else selected⟩)

def execDelete (s : Session κ τ β δ) (db : Database κ τ β) (table : String) (c : Cond) :
    Option (Database κ τ β × Outcome κ τ β) := do
  let r ← db table
  let kept ← keep (fun row => (c.selects s ⟨table, row, none⟩).map not) r.rows
  return (db.set table { r with rows := kept }, ⟨r.rows.length - kept.length, []⟩)

/-- The rows an insertion is given; none where its query finds a row. -/
def Rows.eval (s : Session κ τ β δ) (db : Database κ τ β) :
    Rows → Option (List (List (Value κ τ β)))
  | .values terms _ => return [← terms.mapM (Term.eval s .empty)]
  | .query q => q.run s db
  | .unless terms q => do
    let row ← terms.mapM (Term.eval s .empty)
    return if (← q.run s db).isEmpty then [row] else []

def Rows.ignored : Rows → Option Failure
  | .values _ (some column) => some (.duplicate column)
  | _ => none

def execInsert (s : Session κ τ β δ) (db : Database κ τ β) (table : String)
    (columns : List String) (rows : Rows) :
    Except Failure (Database κ τ β × Outcome κ τ β) :=
  match db table, rows.eval s db with
  | some r, some given =>
    if given.all fun values => values.length == columns.length then
      match r.storeAll s (given.map columns.zip) with
      | .ok r => .ok (db.set table r, ⟨given.length, []⟩)
      | .error failure =>
        if rows.ignored = some failure then .ok (db, ⟨0, []⟩) else .error failure
    else .error .malformed
  | _, _ => .error .malformed

def exec (s : Session κ τ β δ) (db : Database κ τ β) :
    Statement → Except Failure (Database κ τ β × Outcome κ τ β)
  | .select q => (wellFormed (q.run s db)).map fun rows => (db, ⟨rows.length, rows⟩)
  | .update table sets source filter returning =>
    wellFormed (execUpdate s db table sets source filter returning)
  | .delete table c => wellFormed (execDelete s db table c)
  | .insert table columns rows => execInsert s db table columns rows

def execText (s : Session κ τ β δ) (db : Database κ τ β) (text : String) :
    Except Failure (Database κ τ β × Outcome κ τ β) := do
  exec s db (← wellFormed (parse (LibrarySqlText.lex text)))

theorem execInsert_of_storeAll {s : Session κ τ β δ} {db : Database κ τ β} {table : String}
    {columns : List String} {rows : Rows} {r : Relation κ τ β} {given : List (List (Value κ τ β))}
    (stored : db table = some r) (evaluated : rows.eval s db = some given)
    (widths : ∀ values ∈ given, values.length = columns.length) :
    execInsert s db table columns rows =
      match r.storeAll s (given.map columns.zip) with
      | .ok r => .ok (db.set table r, ⟨given.length, []⟩)
      | .error failure =>
        if rows.ignored = some failure then .ok (db, ⟨0, []⟩) else .error failure := by
  have fits : (given.all fun values => values.length == columns.length) = true := by
    rw [List.all_eq_true]
    intro values mem
    exact beq_iff_eq.mpr (widths values mem)
  simp only [execInsert, stored, evaluated, fits, if_true]

theorem execInsert_stored {s : Session κ τ β δ} {db : Database κ τ β} {table : String}
    {columns : List String} {rows : Rows} {r r' : Relation κ τ β} {values : List (Value κ τ β)}
    (stored : db table = some r) (evaluated : rows.eval s db = some [values])
    (width : values.length = columns.length) (taken : r.store s (columns.zip values) = .ok r') :
    execInsert s db table columns rows = .ok (db.set table r', ⟨1, []⟩) := by
  rw [execInsert_of_storeAll stored evaluated (by simpa using width), List.map_singleton,
    Relation.storeAll, taken]
  rfl

theorem execInsert_refused {s : Session κ τ β δ} {db : Database κ τ β} {table : String}
    {columns : List String} {rows : Rows} {r : Relation κ τ β} {values : List (Value κ τ β)}
    {failure : Failure} (stored : db table = some r) (evaluated : rows.eval s db = some [values])
    (width : values.length = columns.length)
    (refused : r.store s (columns.zip values) = .error failure) :
    execInsert s db table columns rows =
      if rows.ignored = some failure then .ok (db, ⟨0, []⟩) else .error failure := by
  rw [execInsert_of_storeAll stored evaluated (by simpa using width), List.map_singleton,
    Relation.storeAll, refused]
  rfl

theorem execText_of_parse {s : Session κ τ β δ} {db : Database κ τ β} {text : String}
    {statement : Statement} (spelled : parse (LibrarySqlText.lex text) = some statement) :
    execText s db text = exec s db statement := by
  rw [execText, spelled]
  rfl

/-! ## Statements on tables

A relation that stores a keyed table row by row: what a statement does to each stored row
says what it does to the table. -/

section Lists

variable {α γ η : Type}

theorem keep_map {p : γ → Option Bool} {q : α → Bool} {f : α → γ} {l : List α}
    (h : ∀ a ∈ l, p (f a) = some (q a)) : keep p (l.map f) = some ((l.filter q).map f) := by
  induction l with
  | nil => rfl
  | cons a rest ih =>
    rw [List.map_cons, keep, ih fun b mem => h b (List.mem_cons_of_mem _ mem),
      h a List.mem_cons_self, List.filter_cons]
    cases q a <;> rfl

theorem mapM_map {p : γ → Option η} {g : α → η} {f : α → γ} {l : List α}
    (h : ∀ a ∈ l, p (f a) = some (g a)) : (l.map f).mapM p = some (l.map g) := by
  induction l with
  | nil => rfl
  | cons a rest ih =>
    rw [List.map_cons, List.mapM_cons, ih fun b mem => h b (List.mem_cons_of_mem _ mem),
      h a List.mem_cons_self]
    rfl

theorem map_sortBy {f : α → γ} {cmp : α → α → Ordering} {cmp' : γ → γ → Ordering}
    (same : ∀ a b, cmp' (f a) (f b) = cmp a b) (l : List α) :
    sortBy cmp' (l.map f) = (sortBy cmp l).map f := by
  unfold sortBy
  refine (List.map_insertionSort _ _ f l fun a _ b _ => ?_).symm
  rw [same]

theorem compare_natCast (a b : ℕ) : compare (a : ℤ) (b : ℤ) = compare a b := by
  rcases lt_trichotomy a b with h | rfl | h
  · rw [compare_lt_iff_lt.mpr h, compare_lt_iff_lt.mpr (Int.ofNat_lt.mpr h)]
  · simp
  · rw [compare_gt_iff_gt.mpr h, compare_gt_iff_gt.mpr (Int.ofNat_lt.mpr h)]

end Lists

section Tables

open LibraryTables

variable {ρ : Type} {s : Session κ τ β δ} {db : Database κ τ β} {table : String}
  {columns : List (Column κ τ β)} {serial : ℕ} {t : Table κ ρ} {encode : κ × ρ → Row κ τ β}

theorem chosen_table {q : Query} {p : κ × ρ → Bool} {cmp : κ × ρ → κ × ρ → Ordering}
    {limit : Term} {n : ℕ} {name : String} {descending : Bool}
    (stored : db q.table = some ⟨columns, serial, t.rows.map encode⟩)
    (rows : ∀ row ∈ t.rows, q.selects s (encode row) = some (p row))
    (order : q.order = some (name, descending))
    (compared : ∀ a b, compareBy name descending (encode a) (encode b) = cmp a b)
    (cut : q.limit = some limit) (counted : limit.eval s .empty = some (.int n)) :
    q.chosen s db = some ((t.select p cmp n).map encode) := by
  simp only [Query.chosen, stored, Option.bind_eq_bind, Option.bind_some, keep_map rows, order,
    map_sortBy compared, cut, limited, counted, Int.natCast_nonneg, if_true, Int.toNat_natCast,
    Table.select, List.map_take]

theorem chosen_unordered {q : Query} {p : κ × ρ → Bool}
    (stored : db q.table = some ⟨columns, serial, t.rows.map encode⟩)
    (rows : ∀ row ∈ t.rows, q.selects s (encode row) = some (p row))
    (order : q.order = none) (uncut : q.limit = none) :
    q.chosen s db = some ((t.rows.filter p).map encode) := by
  simp only [Query.chosen, stored, Option.bind_eq_bind, Option.bind_some, keep_map rows, order,
    uncut, limited]

theorem run_of_chosen {q : Query} {rows : List (κ × ρ)} {read : κ × ρ → List (Value κ τ β)}
    (chosen : q.chosen s db = some (rows.map encode))
    (terms : ∀ row ∈ rows,
      q.terms.mapM (Term.eval s ⟨q.table, encode row, none⟩) = some (read row)) :
    q.run s db = some (rows.map read) := by
  rw [Query.run, chosen, Option.bind_eq_bind, Option.bind_some]
  exact mapM_map terms

theorem execUpdate_table {sets : List (String × Term)} {source : Source} {filter : Filter}
    {returning : List Term} {partners : List (Option (String × Row κ τ β))}
    {selects : Scope κ τ β → Option Bool} {p : κ → ρ → Bool} {f : ρ → ρ}
    (read : κ × ρ → List (Value κ τ β))
    (stored : db table = some ⟨columns, serial, t.rows.map encode⟩)
    (joined : source.partners s db table = some partners)
    (compiled : filter.selects s db = some selects)
    (rows : ∀ row ∈ t.rows,
      updateRow s table sets returning partners selects (encode row) =
        some (if p row.1 row.2 then (encode (row.1, f row.2), some (read (row.1, f row.2)))
          else (encode row, none))) :
    execUpdate s db table sets source filter returning =
      some (db.set table ⟨columns, serial, (t.updateWhere p f).rows.map encode⟩,
        ⟨t.affected p, if returning.isEmpty then [] else
          (t.rows.filter fun row => p row.1 row.2).map fun row => read (row.1, f row.2)⟩) := by
  have selected : ∀ l : List (κ × ρ), (l.map fun row =>
      (if p row.1 row.2 then (encode (row.1, f row.2), some (read (row.1, f row.2)))
        else (encode row, none) : Row κ τ β × Option (List (Value κ τ β)))).filterMap Prod.snd =
      (l.filter fun row => p row.1 row.2).map fun row => read (row.1, f row.2) := by
    intro l
    induction l with
    | nil => rfl
    | cons row rest ih =>
      rw [List.map_cons, List.filterMap_cons, List.filter_cons, ih]
      by_cases h : p row.1 row.2
      · simp only [h, if_true, List.map_cons]
      · simp only [h, Bool.false_eq_true, if_false]
  have kept : ∀ l : List (κ × ρ), (l.map fun row =>
      (if p row.1 row.2 then (encode (row.1, f row.2), some (read (row.1, f row.2)))
        else (encode row, none) : Row κ τ β × Option (List (Value κ τ β)))).map Prod.fst =
      (l.map fun row => (row.1, if p row.1 row.2 then f row.2 else row.2)).map encode := by
    intro l
    rw [List.map_map, List.map_map]
    refine List.map_congr_left fun row _ => ?_
    simp only [Function.comp_apply]
    split <;> rfl
  simp only [execUpdate, stored, joined, compiled, Option.bind_eq_bind, Option.bind_some,
    mapM_map rows, selected, kept, List.length_map, Table.updateWhere, Table.affected,
    List.countP_eq_length_filter]
  rfl

omit [DecidableEq κ] [LinearOrder τ] in
theorem updateRow_single {sets : List (String × Term)} {returning : List Term}
    {selects : Scope κ τ β → Option Bool} {row updated : Row κ τ β} {b : Bool}
    {read : List (Value κ τ β)} (selected : selects ⟨table, row, none⟩ = some b)
    (written : b = true → assign s ⟨table, row, none⟩ row sets = some updated)
    (returned : b = true →
      returning.mapM (Term.eval s ⟨table, updated, none⟩) = some read) :
    updateRow s table sets returning [none] selects row =
      some (if b then (updated, some read) else (row, none)) := by
  cases b with
  | false => simp [updateRow, keep, selected]
  | true => simp [updateRow, keep, selected, written rfl, returned rfl]

theorem exec_update_where {sets : List (String × Term)} {c : Cond} {p : κ → ρ → Bool} {f : ρ → ρ}
    (stored : db table = some ⟨columns, serial, t.rows.map encode⟩)
    (selected : ∀ row ∈ t.rows, c.selects s ⟨table, encode row, none⟩ = some (p row.1 row.2))
    (written : ∀ row ∈ t.rows, p row.1 row.2 = true →
      assign s ⟨table, encode row, none⟩ (encode row) sets = some (encode (row.1, f row.2))) :
    exec s db (.update table sets .nothing (.holds c) []) =
      .ok (db.set table ⟨columns, serial, (t.updateWhere p f).rows.map encode⟩,
        ⟨t.affected p, []⟩) := by
  have rows : ∀ row ∈ t.rows, updateRow s table sets [] [none] (c.selects s) (encode row) =
      some (if p row.1 row.2 then (encode (row.1, f row.2), some []) else (encode row, none)) :=
    fun row mem => updateRow_single (selected row mem) (written row mem) fun _ => rfl
  have updated : execUpdate s db table sets .nothing (.holds c) [] = _ :=
    execUpdate_table (fun _ => []) stored rfl rfl rows
  rw [exec, updated]
  rfl

omit [DecidableEq κ] [LinearOrder τ] in
/-- A row that is joined with whichever of its partners match it. -/
theorem updateRow_joined {α : Type} {sets : List (String × Term)} {returning : List Term}
    {selects : Scope κ τ β → Option Bool} {row updated : Row κ τ β} {l : List α}
    {partner : α → Option (String × Row κ τ β)} {b : α → Bool} {read : List (Value κ τ β)}
    (selected : ∀ a ∈ l, selects ⟨table, row, partner a⟩ = some (b a))
    (written : ∀ a, assign s ⟨table, row, partner a⟩ row sets = some updated)
    (returned : ∀ a,
      returning.mapM (Term.eval s ⟨table, updated, partner a⟩) = some read) :
    updateRow s table sets returning (l.map partner) selects row =
      some (if l.any b then (updated, some read) else (row, none)) := by
  have kept : keep (fun p => selects ⟨table, row, p⟩) (l.map partner) =
      some ((l.filter b).map partner) := keep_map selected
  rw [updateRow, kept]
  cases matching : l.filter b with
  | nil =>
    have none : l.any b = false := by
      rw [List.any_eq_false]
      exact List.filter_eq_nil_iff.mp matching
    rw [none]
    rfl
  | cons a rest =>
    have some : l.any b = true := by
      have mem : a ∈ l.filter b := by rw [matching]; exact List.mem_cons_self
      rw [List.mem_filter] at mem
      exact List.any_eq_true.mpr ⟨a, mem⟩
    rw [some]
    simp [written a, returned a]

theorem exec_delete_where {c : Cond} {p : κ → ρ → Bool}
    (stored : db table = some ⟨columns, serial, t.rows.map encode⟩)
    (rows : ∀ row ∈ t.rows, c.selects s ⟨table, encode row, none⟩ = some (p row.1 row.2)) :
    exec s db (.delete table c) =
      .ok (db.set table ⟨columns, serial, (t.deleteWhere p).rows.map encode⟩,
        ⟨t.affected p, []⟩) := by
  have kept : keep (fun row => (c.selects s ⟨table, row, none⟩).map not) (t.rows.map encode) =
      some ((t.rows.filter fun row => !p row.1 row.2).map encode) :=
    keep_map fun row mem => by rw [rows row mem, Option.map_some]
  have counted : t.rows.length - (t.rows.filter fun row => !p row.1 row.2).length =
      t.rows.countP fun row => p row.1 row.2 := by
    have total := List.length_eq_countP_add_countP (fun row => p row.1 row.2) (l := t.rows)
    have others : (t.rows.filter fun row => !p row.1 row.2).length =
        t.rows.countP fun row => decide (¬p row.1 row.2 = true) := by
      rw [← List.countP_eq_length_filter]
      refine List.countP_congr fun row _ => ?_
      simp
    omega
  simp only [exec, execDelete, stored, Option.bind_eq_bind, Option.bind_some, kept,
    List.length_map, counted, Table.deleteWhere, Table.affected]
  rfl

theorem exec_select_of_chosen {q : Query} {rows : List (κ × ρ)}
    {read : κ × ρ → List (Value κ τ β)} (chosen : q.chosen s db = some (rows.map encode))
    (terms : ∀ row ∈ rows,
      q.terms.mapM (Term.eval s ⟨q.table, encode row, none⟩) = some (read row)) :
    exec s db (.select q) = .ok (db, ⟨rows.length, rows.map read⟩) := by
  rw [exec, run_of_chosen chosen terms, ← List.length_map (f := read)]
  rfl

end Tables

end LibrarySql
