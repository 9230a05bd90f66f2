import Hexeract.LibrarySqlText

/-! # Statements of a fragment of SQL, and their grammar

Single-table statements with parameters, as client libraries issue them: conditions are
built from comparisons, null tests and memberships, instants come from the clock of the
database. The clock is spelled differently by every engine; a term says only that it is
read, or that it is read and a bound span added. -/
namespace LibrarySql

open LibrarySqlText

inductive Term where
  | column (name : String)
  | member (table name : String)
  | param (position : ℕ)
  | number (n : ℕ)
  | null
  | truth (b : Bool)
  | now
  | later (position : ℕ)
  | plus (name : String) (n : ℕ)
  deriving DecidableEq, Repr

inductive Comparison where
  | eq
  | lt
  | le
  | ge
  deriving DecidableEq, Repr

inductive Cond where
  | compare (comparison : Comparison) (left right : Term)
  | isNull (term : Term)
  | isNotNull (term : Term)
  | among (terms : List Term) (rows : List (List Term))
  | both (left right : Cond)
  | either (left right : Cond)
  deriving Repr

/-- `order` carries whether the order is descending. -/
structure Query where
  terms : List Term
  table : String
  condition : Option Cond
  order : Option (String × Bool)
  limit : Option Term
  skipLocked : Bool
  deriving Repr

/-- What an update is joined with: a named query, or bound arrays read side by side. -/
inductive Source where
  | nothing
  | query (name : String) (query : Query)
  | arrays (name : String) (positions : List ℕ) (columns : List String)
  deriving Repr

inductive Filter where
  | holds (condition : Cond)
  | inQuery (term : Term) (query : Query)
  deriving Repr

/-- The rows of an insertion: bound values, perhaps ignoring a conflict on a column; the
rows of a query; or bound values unless a query finds a row. -/
inductive Rows where
  | values (terms : List Term) (ignoring : Option String)
  | query (query : Query)
  | unless (terms : List Term) (query : Query)
  deriving Repr

inductive Statement where
  | select (query : Query)
  | update (table : String) (sets : List (String × Term)) (source : Source) (filter : Filter)
      (returning : List Term)
  | delete (table : String) (condition : Cond)
  | insert (table : String) (columns : List String) (rows : Rows)
  deriving Repr

/-! ## The grammar -/

namespace Grammar

abbrev Parser (α : Type) := StateT (List Token) Option α

section Parsers

variable {α : Type}

def accept (f : Token → Option α) : Parser α
  | [] => none
  | token :: rest => (f token).map fun a => (a, rest)

def keyword (k : Keyword) : Parser Unit := accept fun
  | .keyword other => if other = k then some () else none
  | _ => none

def symbol (c : Char) : Parser Unit := accept fun
  | .symbol other => if other = c then some () else none
  | _ => none

def word : Parser String := accept fun
  | .word letters => some letters
  | _ => none

def tableName : Parser String := accept fun
  | .identifier name => some name
  | _ => none

def marker : Parser ℕ := accept fun
  | .marker position => position
  | _ => none

def number : Parser ℕ := accept fun
  | .number n => some n
  | _ => none

def literal : Parser String := accept fun
  | .literal text => some text
  | _ => none

def phrase (ks : List Keyword) : Parser Unit := ks.forM keyword

def symbols (cs : List Char) : Parser Unit := cs.forM symbol

def parens (inner : Parser α) : Parser α := do
  symbol '('
  let a ← inner
  symbol ')'
  return a

/-- One item or more; `fuel` bounds their number. -/
def separated (separator : Parser Unit) (item : Parser α) : ℕ → Parser (List α)
  | 0 => failure
  | fuel + 1 => do
    let first ← item
    (do separator; return first :: (← separated separator item fuel)) <|> return [first]

def list (item : Parser α) (fuel : ℕ) : Parser (List α) := separated (symbol ',') item fuel

end Parsers

/-- The only format in which a textual clock is read. -/
def isoMillis : String := "%Y-%m-%dT%H:%M:%fZ"

def utcMicros : Parser Unit := do
  keyword .utcTimestamp
  guard ((← parens number) = 6)

def textualClock : Parser Term := do
  keyword .strftime
  symbol '('
  guard ((← literal) = isoMillis)
  symbol ','
  guard ((← literal) = "now")
  (do symbol ')'; return .now) <|> do
    symbol ','
    let position ← marker
    symbol ')'
    return .later position

def secondsLater : Parser Term := parens do
  keyword .now
  symbols ['(', ')', '+']
  let position ← parens do
    keyword .cast
    let position ← parens do
      let position ← marker
      phrase [.as, .double, .precision]
      return position
    symbol '*'
    keyword .interval
    guard ((← literal) = "1 second")
    return position
  return .later position

def microsLater : Parser Term := parens do
  utcMicros
  symbol '+'
  keyword .interval
  let position ← marker
  keyword .microsecond
  return .later position

def clock : Parser Term :=
  (do keyword .now; symbols ['(', ')']; return .now) <|> (do utcMicros; return .now) <|>
    textualClock <|> secondsLater <|> microsLater

def named : Parser Term := do
  let name ← word
  (do symbol '.'; return .member name (← word)) <|>
    (do symbol '+'; return .plus name (← number)) <|> return .column name

def term : Parser Term :=
  named <|> (do return .param (← marker)) <|> (do return .number (← number)) <|>
    (do keyword .null; return .null) <|> (do keyword .true; return .truth true) <|>
    (do keyword .false; return .truth false) <|>
    (do
      let table ← tableName
      symbol '.'
      return .member table (← word)) <|> clock

def comparison : Parser Comparison :=
  (do symbol '='; return .eq) <|> (do symbols ['<', '=']; return .le) <|>
    (do symbol '<'; return .lt) <|> (do symbols ['>', '=']; return .ge)

def simple (fuel : ℕ) : Parser Cond := do
  let left ← term
  (do phrase [.is, .null]; return .isNull left) <|>
    (do phrase [.is, .not, .null]; return .isNotNull left) <|>
    (do
      keyword .in
      let items ← parens (list term fuel)
      return .among [left] (items.map fun item => [item])) <|>
    (do
      let comparison ← comparison
      return .compare comparison left (← term))

def rowAmong (fuel : ℕ) : Parser Cond := do
  let terms ← parens (list term fuel)
  keyword .in
  symbol '('
  let _ ← optional (keyword .values)
  let rows ← list (parens (list term fuel)) fuel
  symbol ')'
  return .among terms rows

def whereClause (condition : Parser Cond) : Parser (Option Cond) :=
  optional (do keyword .where; condition)

def joined (connective : Cond → Cond → Cond) : List Cond → Option Cond
  | [] => none
  | [c] => some c
  | c :: rest => (joined connective rest).map (connective c)

def atom (fuel : ℕ) (inner : Parser Cond) : Parser Cond :=
  rowAmong fuel <|> parens inner <|> simple fuel

def conjunction (fuel : ℕ) (inner : Parser Cond) : Parser Cond := do
  joined .both (← separated (keyword .and) (atom fuel inner) fuel)

/-- `AND` binds closer than `OR`; `depth` bounds the nesting of parentheses. -/
def conditionWithin (fuel : ℕ) : ℕ → Parser Cond
  | 0 => failure
  | depth + 1 => do
    joined .either (← separated (keyword .or) (conjunction fuel (conditionWithin fuel depth)) fuel)

def condition (fuel : ℕ) : Parser Cond := conditionWithin fuel 3

def query (fuel : ℕ) : Parser Query := do
  keyword .select
  let terms ← list term fuel
  keyword .from
  let table ← tableName
  let condition ← whereClause (condition fuel)
  let order ← optional do
    phrase [.order, .by]
    let name ← word
    return (name, (← optional (keyword .desc)).isSome)
  let limit ← optional (do keyword .limit; term)
  let lock ← optional (do phrase [.for, .update]; optional (phrase [.skip, .locked]))
  return ⟨terms, table, condition, order, limit, lock.any fun skip => skip.isSome⟩

def assignment : Parser (String × Term) := do
  let name ← word
  symbol '='
  return (name, ← term)

def arrayMarker : Parser ℕ := do
  let position ← marker
  symbols [':', ':']
  let _ ← word
  symbols ['[', ']']
  return position

def arrays (fuel : ℕ) : Parser Source := do
  phrase [.from, .unnest]
  let positions ← parens (list arrayMarker fuel)
  keyword .as
  let name ← word
  let columns ← parens (list word fuel)
  return .arrays name positions columns

def source (fuel : ℕ) (queries : List (String × Query)) : Parser Source :=
  arrays fuel <|>
    (do
      keyword .from
      let name ← word
      return .query name (← (queries.lookup name : Option Query))) <|> return .nothing

def filter (fuel : ℕ) : Parser Filter := do
  keyword .where
  (do
      let term ← term
      keyword .in
      return .inQuery term (← parens (query fuel))) <|>
    (do return .holds (← condition fuel))

def returned (fuel : ℕ) : Parser (Option (List Term)) :=
  optional (do keyword .returning; list term fuel)

def update (fuel : ℕ) (queries : List (String × Query)) : Parser Statement := do
  keyword .update
  let table ← tableName
  keyword .set
  let sets ← list assignment fuel
  let source ← source fuel queries
  let filter ← filter fuel
  let returning ← returned fuel
  return .update table sets source filter (returning.getD [])

def insertedValues (fuel : ℕ) : Parser Rows := do
  keyword .values
  let terms ← parens (list term fuel)
  let ignoring ← optional do
    phrase [.on, .conflict]
    let name ← parens word
    phrase [.do, .nothing]
    return name
  return .values terms ignoring

def insertedUnless (fuel : ℕ) : Parser Rows := do
  keyword .select
  let terms ← list term fuel
  phrase [.from, .dual, .where, .not, .exists]
  return .unless terms (← parens (query fuel))

def insert (fuel : ℕ) : Parser Statement := do
  phrase [.insert, .into]
  let table ← tableName
  let columns ← parens (list word fuel)
  let rows ← insertedValues fuel <|> insertedUnless fuel <|> (do return .query (← query fuel))
  return .insert table columns rows

def delete (fuel : ℕ) : Parser Statement := do
  phrase [.delete, .from]
  let table ← tableName
  keyword .where
  return .delete table (← condition fuel)

def updateWith (fuel : ℕ) : Parser Statement := do
  keyword .with
  let name ← word
  keyword .as
  let query ← parens (query fuel)
  update fuel [(name, query)]

def statement (fuel : ℕ) : Parser Statement :=
  (do return .select (← query fuel)) <|> update fuel [] <|> insert fuel <|> delete fuel <|>
    updateWith fuel

/-! ## Readers of repeated pieces -/

section Repeated

variable {α : Type}

theorem bind_some {β : Type} {p : Parser α} {k : α → Parser β} {text rest : List Token} {a : α}
    (first : p text = some (a, rest)) : (p >>= k) text = k a rest := by
  simp only [bind, StateT.bind, first, Option.bind_some]

theorem orElse_some {p : Parser α} {q : Unit → Parser α} {text : List Token} {r : α × List Token}
    (first : p text = some r) : (HOrElse.hOrElse p q) text = some r := by
  change Option.orElse (p text) (fun _ => q () text) = some r
  rw [first]
  rfl

theorem orElse_none {p : Parser α} {q : Unit → Parser α} {text : List Token}
    (first : p text = none) : (HOrElse.hOrElse p q) text = q () text := by
  change Option.orElse (p text) (fun _ => q () text) = q () text
  rw [first]
  rfl

theorem separated_single {separator : Parser Unit} {item : Parser α} {text rest : List Token}
    {a : α} (fuel : ℕ) (first : item text = some (a, rest)) (last : separator rest = none) :
    separated separator item (fuel + 1) text = some ([a], rest) := by
  rw [separated, bind_some first, orElse_none]
  · rfl
  · simp only [bind, StateT.bind, last, Option.bind_none]

theorem separated_cons {separator : Parser Unit} {item : Parser α} {text rest rest' : List Token}
    {a : α} {r : List α × List Token} {fuel : ℕ} (first : item text = some (a, rest))
    (more : separator rest = some ((), rest'))
    (others : separated separator item fuel rest' = some r) :
    separated separator item (fuel + 1) text = some (a :: r.1, r.2) := by
  rw [separated, bind_some first, orElse_some]
  rw [bind_some more, bind_some others]
  rfl

def countedValues (value : ℕ → α) (width : ℕ) : ℕ → ℕ → List α
  | position, 0 => [value position]
  | position, n + 1 => value position :: countedValues value width (position + width) n

theorem list_counted {item : Parser α} {shape : ℕ → List Token} {value : ℕ → α} {width : ℕ}
    (one : ∀ position rest, item (shape position ++ rest) = some (value position, rest))
    {rest : List Token} (last : symbol ',' rest = none) {fuel n : ℕ} (enough : n < fuel)
    (position : ℕ) :
    list item fuel (counted shape width position n ++ rest) =
      some (countedValues value width position n, rest) := by
  induction n generalizing fuel position with
  | zero =>
    obtain ⟨fuel, rfl⟩ := Nat.exists_eq_add_of_lt enough
    exact separated_single _ (one position rest) last
  | succ n ih =>
    obtain ⟨fuel, rfl⟩ := Nat.exists_eq_add_of_lt enough
    have others : list item (n + 1 + fuel) (counted shape width (position + width) n ++ rest) = _ :=
      ih (by omega) _
    rw [counted, List.append_assoc, List.cons_append]
    exact separated_cons (one position _) rfl others

theorem condition_of_atom {fuel : ℕ} {text rest : List Token} {c : Cond}
    (one : atom (fuel + 1) (conditionWithin (fuel + 1) 2) text = some (c, rest))
    (noAnd : keyword .and rest = none) (noOr : keyword .or rest = none) :
    condition (fuel + 1) text = some (c, rest) := by
  have conjuncts : separated (keyword .and) (atom (fuel + 1) (conditionWithin (fuel + 1) 2))
      (fuel + 1) text = some ([c], rest) :=
    separated_single fuel one noAnd
  have conjoined : conjunction (fuel + 1) (conditionWithin (fuel + 1) 2) text = some (c, rest) :=
    bind_some conjuncts
  rw [condition, conditionWithin]
  exact (bind_some (separated_single fuel conjoined noOr)).trans rfl

theorem condition_of_rowAmong {fuel : ℕ} {text rest : List Token} {c : Cond}
    (one : rowAmong (fuel + 1) text = some (c, rest)) (noAnd : keyword .and rest = none)
    (noOr : keyword .or rest = none) : condition (fuel + 1) text = some (c, rest) :=
  condition_of_atom (orElse_some one) noAnd noOr

theorem condition_of_simple {fuel : ℕ} {text rest : List Token} {c : Cond}
    (noParens : symbol '(' text = none) (one : simple (fuel + 1) text = some (c, rest))
    (noAnd : keyword .and rest = none) (noOr : keyword .or rest = none) :
    condition (fuel + 1) text = some (c, rest) := by
  have opened : ∀ {α β : Type} (inner : Parser α) (k : α → Parser β),
      (parens inner >>= k) text = none := by
    intro α β inner k
    simp only [parens, bind, StateT.bind, noParens, Option.bind_none]
  refine condition_of_atom ?_ noAnd noOr
  refine (orElse_none (opened _ _)).trans ((orElse_none ?_).trans one)
  simp only [parens, bind, StateT.bind, noParens, Option.bind_none]

theorem whereClause_of_condition {fuel : ℕ} {text rest : List Token} {c : Cond}
    (one : condition fuel text = some (c, rest)) :
    whereClause (condition fuel) (.keyword .where :: text) = some (some c, rest) := by
  refine orElse_some ?_
  change Option.bind (condition fuel text) _ = _
  rw [one]
  rfl

theorem filter_of_condition {fuel : ℕ} {text rest : List Token} {c : Cond}
    (noQuery : (do
      let term ← term
      keyword .in
      return .inQuery term (← parens (query fuel)) : Parser Filter) text = none)
    (one : condition fuel text = some (c, rest)) :
    filter fuel (.keyword .where :: text) = some (.holds c, rest) := by
  rw [filter, bind_some (p := keyword .where) rfl, orElse_none noQuery, bind_some one]
  rfl

theorem statement_update {fuel : ℕ} {table : String} {text rest₁ rest₂ rest₃ rest₄ : List Token}
    {sets : List (String × Term)} {src : Source} {flt : Filter} {ret : Option (List Term)}
    (assigned : list assignment fuel text = some (sets, rest₁))
    (joined : source fuel [] rest₁ = some (src, rest₂))
    (filtered : filter fuel rest₂ = some (flt, rest₃))
    (returning : returned fuel rest₃ = some (ret, rest₄)) :
    statement fuel (.keyword .update :: .identifier table :: .keyword .set :: text) =
      some (.update table sets src flt (ret.getD []), rest₄) := by
  have updated : update fuel [] (.keyword .update :: .identifier table :: .keyword .set :: text) =
      some (.update table sets src flt (ret.getD []), rest₄) := by
    rw [update, bind_some (p := keyword .update) rfl, bind_some (p := tableName) rfl,
      bind_some (p := keyword .set) rfl, bind_some assigned, bind_some joined, bind_some filtered,
      bind_some returning]
    rfl
  exact (orElse_none rfl).trans (orElse_some updated)

end Repeated

end Grammar

/-- The statement a text spells, if it spells one and nothing else. -/
def parse (text : List Token) : Option Statement :=
  match Grammar.statement text.length text with
  | some (s, []) => some s
  | _ => none

theorem parse_of_statement {text : List Token} {s : Statement}
    (all : Grammar.statement text.length text = some (s, [])) : parse text = some s := by
  rw [parse, all]

end LibrarySql
