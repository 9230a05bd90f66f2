import Hexeract.LibrarySqlSemantics
import Hexeract.OutboxStatements

/-! # The SQL dialects of the stores

Placeholders, quoted identifiers and clock expressions, as the statement texts are put
together from them, and the databases that read the texts. -/
namespace SqlDialect

open LibrarySql LibrarySqlText
open OutboxStatements (Dialect OutboxError)

/-! ## Table names -/

def maxIdentifierLen : ℕ := 63

inductive InvalidTableName where
  | empty
  | tooLong (length : ℕ)
  | invalidLeadingCharacter (character : Char)
  | invalidCharacter (character : Char)
  deriving DecidableEq, Repr

def isIdentifierStart (c : Char) : Bool := c.isAlpha || c == '_'

def isIdentifierPart (c : Char) : Bool := c.isAlphanum || c == '_'

def validateTableName (name : String) : Except InvalidTableName Unit :=
  match name.toList with
  | [] => .error .empty
  | first :: characters =>
    if maxIdentifierLen < name.utf8ByteSize then .error (.tooLong name.utf8ByteSize)
    else if isIdentifierStart first = false then .error (.invalidLeadingCharacter first)
    else
      match characters.find? fun c => !isIdentifierPart c with
      | some character => .error (.invalidCharacter character)
      | none => .ok ()

/-! ## Pieces of a text -/

def supportsSkipLocked : Dialect → Bool
  | .postgres | .mysql => true
  | .sqlite => false

def placeholder (d : Dialect) (index : ℕ) : String :=
  match d with
  | .postgres => s!"${index}"
  | .mysql | .sqlite => "?"

/-- `str::replace` of a character by its double. -/
def doubled (c : Char) (name : String) : String :=
  String.ofList (name.toList.flatMap fun x => if x == c then [x, x] else [x])

def quoteIdentifier (d : Dialect) (name : String) : String :=
  match d with
  | .postgres | .sqlite => "\"" ++ doubled '"' name ++ "\""
  | .mysql => "`" ++ doubled (Char.ofNat 96) name ++ "`"

def nowExpr : Dialect → String
  | .postgres => "NOW()"
  | .mysql => "UTC_TIMESTAMP(6)"
  | .sqlite => "strftime('%Y-%m-%dT%H:%M:%fZ', 'now')"

def nowPlusIntervalExpr (d : Dialect) (index : ℕ) : String :=
  let ph := placeholder d index
  match d with
  | .postgres => s!"(NOW() + (CAST({ph} AS DOUBLE PRECISION) * INTERVAL '1 second'))"
  | .mysql => s!"(UTC_TIMESTAMP(6) + INTERVAL {ph} MICROSECOND)"
  | .sqlite => s!"strftime('%Y-%m-%dT%H:%M:%fZ', 'now', {ph})"

def quote : Dialect → Quote
  | .mysql => .back
  | .postgres | .sqlite => .double

theorem toString_string (s : String) : toString s = s := rfl

theorem quoteIdentifier_toList (d : Dialect) (name : String) :
    (quoteIdentifier d name).toList = quoted (quote d) name.toList := by
  cases d
  all_goals
    simp only [quoteIdentifier, String.toList_append, doubled, String.toList_ofList]
    rfl

theorem placeholder_toList (d : Dialect) (index : ℕ) :
    (placeholder d index).toList = match d with
      | .postgres => '$' :: Nat.toDigits 10 index
      | .mysql | .sqlite => ['?'] := by
  cases d
  · simp only [placeholder, toString_string, String.toList_append]
    rw [String.toList_ofList]
    exact congrArg _ String.toList_ofList
  · rw [placeholder, String.toList_ofList]
  · rw [placeholder, String.toList_ofList]

theorem nowPlusIntervalExpr_toList (d : Dialect) (index : ℕ) :
    (nowPlusIntervalExpr d index).toList = match d with
      | .postgres => "(NOW() + (CAST(".toList ++ (placeholder .postgres index).toList ++
          " AS DOUBLE PRECISION) * INTERVAL '1 second'))".toList
      | .mysql => "(UTC_TIMESTAMP(6) + INTERVAL ".toList ++ (placeholder .mysql index).toList ++
          " MICROSECOND)".toList
      | .sqlite => "strftime('%Y-%m-%dT%H:%M:%fZ', 'now', ".toList ++
          (placeholder .sqlite index).toList ++ ")".toList := by
  delta nowPlusIntervalExpr
  cases d
  all_goals simp only [toString_string, String.toList_append]

/-- The lease of a claim that binds it first, as MySQL spells it. -/
def mysqlLease : List Token :=
  [.symbol '(', .keyword .utcTimestamp, .symbol '(', .number 6, .symbol ')', .symbol '+',
    .keyword .interval, .marker (some 1), .keyword .microsecond, .symbol ')']

/-! ## The databases -/

/-- A database as one statement finds it: its clock, and the keys of the rows that other
transactions hold. -/
structure Engine (κ τ δ : Type) where
  dialect : Dialect
  now : τ
  later : δ → τ
  locked : List κ

variable {κ τ β δ : Type} [DecidableEq κ]

/-- Only PostgreSQL has truth values; the others store and compare numbers. -/
def truthValue (d : Dialect) (b : Bool) : Value κ τ β :=
  match d with
  | .postgres => .truth b
  | .mysql | .sqlite => .int (if b then 1 else 0)

/-- MySQL evaluates the assignments of an update one after the other. -/
def Engine.session (e : Engine κ τ δ) (key : String) (bound : List (Bound κ τ β δ)) :
    Session κ τ β δ where
  now := e.now
  later := e.later
  truth := truthValue e.dialect
  inTurn := e.dialect = .mysql
  isLocked row :=
    match row.lookup key with
    | some (.key k) => e.locked.contains k
    | _ => false
  bound := bound

/-- The rows a query leaves out as locked; SQLite has no lock that it could skip. -/
def skipped (e : Engine κ τ δ) : List κ := if supportsSkipLocked e.dialect then e.locked else []

theorem contains_skipped (e : Engine κ τ δ) (k : κ) :
    (supportsSkipLocked e.dialect && e.locked.contains k) = (skipped e).contains k := by
  unfold skipped
  cases supportsSkipLocked e.dialect <;> simp

section Sessions

variable (e : Engine κ τ δ) (key : String) (bound : List (Bound κ τ β δ))

@[simp] theorem session_at (position : ℕ) :
    (e.session key bound).at (position + 1) = bound[position]? := rfl

@[simp] theorem session_now : (e.session key bound).now = e.now := rfl

end Sessions

end SqlDialect
