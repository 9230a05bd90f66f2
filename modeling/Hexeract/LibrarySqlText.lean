import Mathlib.Data.List.Basic
import Mathlib.Tactic.Common

/-! # Tokens of SQL texts

A scanner for the texts that programs build by concatenation: fixed pieces, quoted
identifiers and parameter markers. What is read off a concatenation is what is read off
its parts, wherever a token cannot run across the seam. -/
namespace LibrarySqlText

inductive Keyword where
  | select | from | where | order | by | desc | limit | for | skip | locked
  | update | set | returning | insert | into | values | on | conflict | do | nothing
  | delete | with | as | in | is | not | null | and | or | exists | dual | unnest
  | true | false | now | utcTimestamp | strftime | cast | double | precision | interval
  | microsecond | create | table | if | index | primary | key | unique | default
  deriving DecidableEq, Repr

/-- A marker is `$n`, which names its position, or `?`, which is counted. -/
inductive Token where
  | keyword (k : Keyword)
  | word (letters : String)
  | identifier (name : String)
  | literal (text : String)
  | number (n : ℕ)
  | marker (position : Option ℕ)
  | symbol (c : Char)
  | unterminated
  deriving DecidableEq, Repr

/-- The characters that enclose an identifier. -/
inductive Quote where
  | double
  | back
  deriving DecidableEq, Repr

def Quote.char : Quote → Char
  | .double => '"'
  | .back => Char.ofNat 96

/-- What the scanner is in the middle of. -/
inductive Mode where
  | between
  | word (letters : List Char)
  | number (digits : List Char)
  | marker (digits : List Char)
  | identifier (quote : Quote) (inside : List Char)
  | identifierEnd (quote : Quote) (inside : List Char)
  | literal (inside : List Char)
  | literalEnd (inside : List Char)
  deriving DecidableEq, Repr

def isQuote (c : Char) : Bool := c == Quote.char .double || c == Quote.char .back

def isLetter (c : Char) : Bool := c.isAlpha || c == '_'

def isSpace (c : Char) : Bool := c == ' ' || c == '\n'

def numeral (digits : List Char) : ℕ := digits.foldl (fun n c => 10 * n + (c.toNat - 48)) 0

def keywords : List (List Char × Keyword) :=
  [(['S', 'E', 'L', 'E', 'C', 'T'], .select), (['F', 'R', 'O', 'M'], .from),
    (['W', 'H', 'E', 'R', 'E'], .where), (['O', 'R', 'D', 'E', 'R'], .order),
    (['B', 'Y'], .by), (['D', 'E', 'S', 'C'], .desc), (['L', 'I', 'M', 'I', 'T'], .limit),
    (['F', 'O', 'R'], .for), (['S', 'K', 'I', 'P'], .skip),
    (['L', 'O', 'C', 'K', 'E', 'D'], .locked), (['U', 'P', 'D', 'A', 'T', 'E'], .update),
    (['S', 'E', 'T'], .set), (['R', 'E', 'T', 'U', 'R', 'N', 'I', 'N', 'G'], .returning),
    (['I', 'N', 'S', 'E', 'R', 'T'], .insert), (['I', 'N', 'T', 'O'], .into),
    (['V', 'A', 'L', 'U', 'E', 'S'], .values), (['O', 'N'], .on),
    (['C', 'O', 'N', 'F', 'L', 'I', 'C', 'T'], .conflict), (['D', 'O'], .do),
    (['N', 'O', 'T', 'H', 'I', 'N', 'G'], .nothing), (['D', 'E', 'L', 'E', 'T', 'E'], .delete),
    (['W', 'I', 'T', 'H'], .with), (['A', 'S'], .as), (['I', 'N'], .in), (['I', 'S'], .is),
    (['N', 'O', 'T'], .not), (['N', 'U', 'L', 'L'], .null), (['A', 'N', 'D'], .and),
    (['O', 'R'], .or), (['E', 'X', 'I', 'S', 'T', 'S'], .exists), (['D', 'U', 'A', 'L'], .dual),
    (['U', 'N', 'N', 'E', 'S', 'T'], .unnest), (['T', 'R', 'U', 'E'], .true),
    (['F', 'A', 'L', 'S', 'E'], .false), (['N', 'O', 'W'], .now),
    (['U', 'T', 'C', '_', 'T', 'I', 'M', 'E', 'S', 'T', 'A', 'M', 'P'], .utcTimestamp),
    (['s', 't', 'r', 'f', 't', 'i', 'm', 'e'], .strftime), (['C', 'A', 'S', 'T'], .cast),
    (['D', 'O', 'U', 'B', 'L', 'E'], .double),
    (['P', 'R', 'E', 'C', 'I', 'S', 'I', 'O', 'N'], .precision),
    (['I', 'N', 'T', 'E', 'R', 'V', 'A', 'L'], .interval),
    (['M', 'I', 'C', 'R', 'O', 'S', 'E', 'C', 'O', 'N', 'D'], .microsecond),
    (['C', 'R', 'E', 'A', 'T', 'E'], .create), (['T', 'A', 'B', 'L', 'E'], .table),
    (['I', 'F'], .if), (['I', 'N', 'D', 'E', 'X'], .index),
    (['P', 'R', 'I', 'M', 'A', 'R', 'Y'], .primary), (['K', 'E', 'Y'], .key),
    (['U', 'N', 'I', 'Q', 'U', 'E'], .unique), (['D', 'E', 'F', 'A', 'U', 'L', 'T'], .default)]

def wordToken (letters : List Char) : Token :=
  match keywords.find? fun entry => entry.1 == letters with
  | some entry => .keyword entry.2
  | none => .word (String.ofList letters)

/-- The token that ends here, if the text ends or a character breaks it off. -/
def Mode.flush : Mode → List Token
  | .between => []
  | .word letters => [wordToken letters]
  | .number digits => [.number (numeral digits)]
  | .marker digits => [.marker (some (numeral digits))]
  | .identifierEnd _ inside => [.identifier (String.ofList inside)]
  | .literalEnd inside => [.literal (String.ofList inside)]
  | .identifier _ _ | .literal _ => [.unterminated]

def Mode.isInside : Mode → Bool
  | .identifier _ _ | .literal _ => true
  | _ => false

def opens (c : Char) : List Token × Mode :=
  if isLetter c then ([], .word [c])
  else if c.isDigit then ([], .number [c])
  else if c == Quote.char .double then ([], .identifier .double [])
  else if c == Quote.char .back then ([], .identifier .back [])
  else if c == '\'' then ([], .literal [])
  else if c == '$' then ([], .marker [])
  else if c == '?' then ([.marker none], .between)
  else if isSpace c then ([], .between)
  else ([.symbol c], .between)

def Mode.breaks (mode : Mode) (c : Char) : List Token × Mode :=
  (mode.flush ++ (opens c).1, (opens c).2)

/-- A quote inside quotes is doubled. -/
def Mode.step : Mode → Char → List Token × Mode
  | .between, c => opens c
  | .word letters, c =>
    if isLetter c || c.isDigit then ([], .word (letters ++ [c])) else Mode.breaks (.word letters) c
  | .number digits, c =>
    if c.isDigit then ([], .number (digits ++ [c])) else Mode.breaks (.number digits) c
  | .marker digits, c =>
    if c.isDigit then ([], .marker (digits ++ [c])) else Mode.breaks (.marker digits) c
  | .identifier quote inside, c =>
    if c == quote.char then ([], .identifierEnd quote inside)
    else ([], .identifier quote (inside ++ [c]))
  | .identifierEnd quote inside, c =>
    if c == quote.char then ([], .identifier quote (inside ++ [c]))
    else Mode.breaks (.identifierEnd quote inside) c
  | .literal inside, c =>
    if c == '\'' then ([], .literalEnd inside) else ([], .literal (inside ++ [c]))
  | .literalEnd inside, c =>
    if c == '\'' then ([], .literal (inside ++ [c])) else Mode.breaks (.literalEnd inside) c

def scan : Mode → List Char → List Token × Mode
  | mode, [] => ([], mode)
  | mode, c :: rest =>
    let (found, mode) := mode.step c
    let (more, mode) := scan mode rest
    (found ++ more, mode)

def tokens (text : List Char) : List Token :=
  let (found, mode) := scan .between text
  found ++ mode.flush

/-- `?` markers are numbered from left to right. -/
def numbered : ℕ → List Token → List Token
  | _, [] => []
  | n, .marker none :: rest => .marker (some n) :: numbered (n + 1) rest
  | n, token :: rest => token :: numbered n rest

def lex (text : String) : List Token := numbered 1 (tokens text.toList)

/-! ## Seams -/

theorem scan_append (mode : Mode) (a b : List Char) :
    scan mode (a ++ b) =
      ((scan mode a).1 ++ (scan (scan mode a).2 b).1, (scan (scan mode a).2 b).2) := by
  induction a generalizing mode with
  | nil => rfl
  | cons c rest ih =>
    rw [List.cons_append]
    simp only [scan, ih, List.append_assoc]

/-- A character that no token but a quoted one runs over. -/
def isApart (c : Char) : Bool := !(isLetter c || c.isDigit || isQuote c || c == '\'')

def startsApart : List Char → Bool
  | [] => true
  | c :: _ => isApart c

theorem step_of_isApart {mode : Mode} {c : Char} (outside : mode.isInside = false)
    (apart : isApart c = true) : mode.step c = mode.breaks c := by
  simp only [isApart, Bool.not_eq_true', Bool.or_eq_false_iff] at apart
  obtain ⟨⟨⟨letter, digit⟩, quoted⟩, mark⟩ := apart
  cases mode with
  | between => rfl
  | word letters => simp [Mode.step, letter, digit]
  | number digits => simp [Mode.step, digit]
  | marker digits => simp [Mode.step, digit]
  | identifier quote inside => cases outside
  | literal inside => cases outside
  | literalEnd inside => simp [Mode.step, mark]
  | identifierEnd quote inside =>
    have other : c ≠ quote.char := by
      rintro rfl
      cases quote <;> simp [isQuote] at quoted
    simp [Mode.step, other]

theorem scan_of_startsApart {mode : Mode} {text : List Char} (outside : mode.isInside = false)
    (apart : startsApart text = true) :
    (scan mode text).1 ++ (scan mode text).2.flush = mode.flush ++ tokens text := by
  cases text with
  | nil => simp [scan, tokens, Mode.flush]
  | cons c rest =>
    simp only [tokens, scan, step_of_isApart outside apart, Mode.breaks, List.append_assoc]
    rfl

/-- Before a character that stands apart, any token but an open quotation has ended. -/
theorem tokens_append_of_apart {a b : List Char} (apart : startsApart b = true)
    (outside : (scan .between a).2.isInside = false) :
    tokens (a ++ b) = tokens a ++ tokens b := by
  have seam := scan_of_startsApart outside apart
  simp only [tokens, scan_append, List.append_assoc] at seam ⊢
  rw [seam]

/-- Where a piece ends between tokens, the next one is read by itself. -/
theorem tokens_append_of_between {a : List Char} (ended : (scan .between a).2 = .between)
    (b : List Char) : tokens (a ++ b) = tokens a ++ tokens b := by
  simp only [tokens, scan_append, ended, Mode.flush, List.append_nil, List.append_assoc]

/-! ## Quoted identifiers -/

def escaped (quote : Quote) (name : List Char) : List Char :=
  name.flatMap fun c => if c == quote.char then [c, c] else [c]

def quoted (quote : Quote) (name : List Char) : List Char :=
  quote.char :: (escaped quote name ++ [quote.char])

theorem scan_escaped (quote : Quote) (name inside : List Char) :
    scan (.identifier quote inside) (escaped quote name) =
      ([], .identifier quote (inside ++ name)) := by
  induction name generalizing inside with
  | nil => simp [escaped, scan]
  | cons c rest ih =>
    have one : scan (.identifier quote inside) (if c == quote.char then [c, c] else [c]) =
        ([], .identifier quote (inside ++ [c])) := by
      by_cases same : c = quote.char <;> simp [same, scan, Mode.step]
    rw [escaped, List.flatMap_cons, scan_append, one]
    have more := ih (inside ++ [c])
    rw [escaped] at more
    simp only [more, List.append_assoc, List.singleton_append, List.nil_append]

/-- Whatever the name, nothing of it is read outside its quotes. -/
theorem scan_quoted (quote : Quote) (name : List Char) :
    scan .between (quoted quote name) = ([], .identifierEnd quote name) := by
  have opened : opens quote.char = ([], .identifier quote []) := by
    cases quote <;> decide
  simp only [quoted, scan, Mode.step, opened, scan_append, scan_escaped, List.nil_append,
    beq_self_eq_true, if_true]

theorem tokens_quoted (quote : Quote) (name : String) {rest : List Char}
    (apart : startsApart rest = true) :
    tokens (quoted quote name.toList ++ rest) = .identifier name :: tokens rest := by
  rw [tokens_append_of_apart apart (by rw [scan_quoted]; rfl)]
  simp [tokens, scan_quoted, Mode.flush]

/-! ## Repeated pieces -/

def repeated (item : List Token) : ℕ → List Token
  | 0 => item
  | n + 1 => item ++ .symbol ',' :: repeated item n

theorem tokens_intercalate {piece : List Char} (ended : (scan .between piece).2 = .between)
    (n : ℕ) (rest : List Char) :
    tokens ([',', ' '].intercalate (List.replicate (n + 1) piece) ++ rest) =
      repeated (tokens piece) n ++ tokens rest := by
  induction n with
  | zero =>
    rw [List.replicate_one, List.intercalate_singleton, tokens_append_of_between ended]
    rfl
  | succ n ih =>
    rw [List.replicate_succ, List.replicate_succ, List.intercalate_cons_cons, ← List.replicate_succ,
      List.append_assoc, List.append_assoc, tokens_append_of_between ended,
      tokens_append_of_between rfl, ih, repeated, List.append_assoc]
    rfl

/-- A repeated piece after its markers were numbered: `width` markers a time. -/
def counted (shape : ℕ → List Token) (width : ℕ) : ℕ → ℕ → List Token
  | position, 0 => shape position
  | position, n + 1 => shape position ++ .symbol ',' :: counted shape width (position + width) n

theorem lt_length_counted {shape : ℕ → List Token} (nonempty : ∀ p, 0 < (shape p).length)
    (width position n : ℕ) : n < (counted shape width position n).length := by
  induction n generalizing position with
  | zero => exact nonempty position
  | succ n ih =>
    rw [counted, List.length_append, List.length_cons]
    have := ih (position + width)
    omega

theorem numbered_repeated {item : List Token} {shape : ℕ → List Token} {width : ℕ}
    (one : ∀ position rest,
      numbered position (item ++ rest) = shape position ++ numbered (position + width) rest)
    (position n : ℕ) (rest : List Token) :
    numbered position (repeated item n ++ rest) =
      counted shape width position n ++ numbered (position + (n + 1) * width) rest := by
  induction n generalizing position with
  | zero => rw [repeated, one, counted, Nat.zero_add, Nat.one_mul]
  | succ n ih =>
    rw [repeated, List.append_assoc, one, List.cons_append, numbered, ih, counted,
      List.append_assoc, List.cons_append]
    · rw [Nat.succ_mul (n + 1), Nat.add_assoc position width, Nat.add_comm width]
    · exact Token.noConfusion

end LibrarySqlText
