import Mathlib.Data.List.DropRight
import Delivery.Proofs.Relational.Quotes

/-!
# The tokens of a text

A text is split into tokens as the database does it, character by character. Quotation marks of all
kinds, comments and escapes decide where a token ends, so a name that held one of them could change
everything behind it. Numbers and words only matter in that they end somewhere; a number takes in
all letters, digits and points that follow it.

Main statement (`tokens_join`): where words and names alternate and the names hold no quotation
mark, the tokens of the whole text are those of its parts, and a name is one token.
-/

namespace Delivery.Lexer

/-! ### Characters -/

def isBlank (c : Char) : Bool := [' ', '\t', '\n', '\r', '\x0b', '\x0c'].contains c

def isLineEnd (c : Char) : Bool := c == '\n' || c == '\r'

def startsWord (c : Char) : Bool := c.isAlpha || c == '_' || 128 ≤ c.toNat

def continuesTag (c : Char) : Bool := startsWord c || c.isDigit

def continuesWord (c : Char) : Bool := continuesTag c || c == '$'

def isSign (c : Char) : Bool := c == '+' || c == '-'

/-- With one of these an operator may end in a sign. -/
def keepsSigns (c : Char) : Bool :=
  ['~', '!', '@', '#', '%', '^', '&', '|', '\x60', '?'].contains c

def isOperator (c : Char) : Bool := isSign c || keepsSigns c || ['*', '/', '<', '>', '='].contains c

/-! ### Tokens -/

/-- What stands between two quotation marks. -/
inductive Quoting where
  | name
  | literal
  -- With characters written as numbers.
  | unicodeName
  | unicodeLiteral
  -- With a backslash before special characters.
  | escaped
  -- Bits in one of two notations, or a text in the national character set.
  | marked (letter : Char)
  deriving DecidableEq, Repr

def Quoting.mark : Quoting → Char
  | name | unicodeName => '"'
  | _ => '\''

/-- The kind of literal that begins with a quotation mark right behind this word. -/
def Quoting.behind : List Char → Option Quoting
  | [c] =>
    if c = 'e' || c = 'E' then some escaped
    else if ['b', 'B', 'x', 'X', 'n', 'N'].contains c then some (marked c)
    else none
  | _ => none

inductive Token where
  | word (chars : List Char)
  | number (chars : List Char)
  | parameter (digits : List Char)
  | quoted (quoting : Quoting) (content : List Char)
  -- Between two tags in dollar signs.
  | tagged (tag content : List Char)
  | operator (chars : List Char)
  | symbol (chars : List Char)
  | unfinished
  deriving DecidableEq, Repr

def Token.name (s : String) : Token := .quoted .name s.toList

/-- The operators that these characters make up. One that may not end in a sign gives up all signs
at its end. -/
def operators : List Char → List Token
  | [] => []
  | c :: rest =>
    if keepsSigns c || rest.any keepsSigns then [.operator (c :: rest)]
    else
      .operator (c :: rest.rdropWhile isSign) ::
        (rest.rtakeWhile isSign).map fun sign => .operator [sign]

/-! ### Reading -/

/-- In which token reading stands, with what was read of it. -/
inductive Mode where
  | between
  | word (chars : List Char)
  | number (chars : List Char)
  | operator (chars : List Char)
  | point
  | colon
  -- A dollar sign begins a parameter or a tag.
  | dollar
  | parameter (digits : List Char)
  | tag (chars : List Char)
  | body (tag content : List Char)
  -- A dollar sign in a body, and what may become the closing tag.
  | bodyTag (tag content seen : List Char)
  -- The letter U with an ampersand.
  | unicode (letter : Char)
  | within (quoting : Quoting) (content : List Char)
  | escape (content : List Char)
  -- A quotation mark that ends the content, unless another one follows.
  | closing (quoting : Quoting) (content : List Char)
  -- A literal goes on in another line.
  | apart (quoting : Quoting) (content : List Char) (line : Bool)
  | lineComment
  | comment (depth : Nat) (last : Char)
  deriving DecidableEq, Repr

/-- What the text leaves if it ends here. -/
def flush : Mode → List Token
  | .between | .lineComment => []
  | .word chars => [.word chars]
  | .number chars => [.number chars]
  | .operator chars => operators chars
  | .point => [.symbol ['.']]
  | .colon => [.symbol [':']]
  | .dollar => [.symbol ['$']]
  | .parameter digits => [.parameter digits]
  | .tag chars => [.symbol ['$'], .word chars]
  | .unicode letter => [.word [letter], .operator ['&']]
  | .closing q content | .apart q content _ => [.quoted q content]
  | .within _ _ | .escape _ | .body _ _ | .bodyTag _ _ _ | .comment _ _ => [.unfinished]

/-- Reading goes on, and these tokens have come to an end. -/
abbrev Step := Mode × List Token

/-- A character that does not belong to the token before it. -/
def start (c : Char) : Step :=
  if isBlank c then (.between, [])
  else if c = '"' then (.within .name [], [])
  else if c = '\'' then (.within .literal [], [])
  else if c = '$' then (.dollar, [])
  else if c = '.' then (.point, [])
  else if c = ':' then (.colon, [])
  else if c.isDigit then (.number [c], [])
  else if startsWord c then (.word [c], [])
  else if isOperator c then (.operator [c], [])
  else (.between, [.symbol [c]])

def ended (tokens : List Token) (c : Char) : Step := ((start c).1, tokens ++ (start c).2)

def preceded (token : Token) (s : Step) : Step := (s.1, token :: s.2)

def stepWord (chars : List Char) (c : Char) : Step :=
  if continuesWord c then (.word (chars ++ [c]), [])
  else if c = '&' && (chars = ['u'] || chars = ['U']) then (.unicode (chars.headD 'U'), [])
  else
    match if c = '\'' then Quoting.behind chars else none with
    | some q => (.within q [], [])
    | none => ended [.word chars] c

def stepNumber (chars : List Char) (c : Char) : Step :=
  let exponent := chars.getLast? = some 'e' || chars.getLast? = some 'E'
  if c.isDigit || c = '.' || startsWord c || (isSign c && exponent) then
    (.number (chars ++ [c]), [])
  else ended [.number chars] c

/-- Two of the operator characters begin a comment wherever they stand. -/
def stepOperator (chars : List Char) (c : Char) : Step :=
  if c = '-' && chars.getLast? = some '-' then (.lineComment, operators chars.dropLast)
  else if c = '*' && chars.getLast? = some '/' then (.comment 0 ' ', operators chars.dropLast)
  else if isOperator c then (.operator (chars ++ [c]), [])
  else ended (operators chars) c

def stepDollar (c : Char) : Step :=
  if c.isDigit then (.parameter [c], [])
  else if c = '$' then (.body [] [], [])
  else if startsWord c then (.tag [c], [])
  else ended [.symbol ['$']] c

def stepTag (chars : List Char) (c : Char) : Step :=
  if c = '$' then (.body chars [], [])
  else if continuesTag c then (.tag (chars ++ [c]), [])
  else preceded (.symbol ['$']) (stepWord chars c)

def stepBodyTag (tag content seen : List Char) (c : Char) : Step :=
  if c = '$' then
    if seen = tag then (.between, [.tagged tag content])
    else (.bodyTag tag (content ++ '$' :: seen) [], [])
  else if continuesTag c then (.bodyTag tag content (seen ++ [c]), [])
  else (.body tag (content ++ '$' :: seen ++ [c]), [])

def stepClosing (q : Quoting) (content : List Char) (c : Char) : Step :=
  if c = q.mark then (.within q (content ++ [c]), [])
  else if q.mark = '\'' && isBlank c then (.apart q content (isLineEnd c), [])
  else ended [.quoted q content] c

def stepApart (q : Quoting) (content : List Char) (line : Bool) (c : Char) : Step :=
  if isBlank c then (.apart q content (line || isLineEnd c), [])
  else if line && c = '\'' then (.within q content, [])
  else ended [.quoted q content] c

def stepComment (depth : Nat) (last c : Char) : Step :=
  if last = '/' && c = '*' then (.comment (depth + 1) ' ', [])
  else if last = '*' && c = '/' then
    (match depth with | 0 => .between | outer + 1 => .comment outer ' ', [])
  else (.comment depth c, [])

def step : Mode → Char → Step
  | .between, c => start c
  | .word chars, c => stepWord chars c
  | .number chars, c => stepNumber chars c
  | .operator chars, c => stepOperator chars c
  | .point, c =>
    if c = '.' then (.between, [.symbol ['.', '.']])
    else if c.isDigit then (.number ['.', c], [])
    else ended [.symbol ['.']] c
  | .colon, c =>
    if c = ':' || c = '=' then (.between, [.symbol [':', c]]) else ended [.symbol [':']] c
  | .dollar, c => stepDollar c
  | .parameter digits, c =>
    if c.isDigit then (.parameter (digits ++ [c]), []) else ended [.parameter digits] c
  | .tag chars, c => stepTag chars c
  | .body tag content, c =>
    if c = '$' then (.bodyTag tag content [], []) else (.body tag (content ++ [c]), [])
  | .bodyTag tag content seen, c => stepBodyTag tag content seen c
  | .unicode letter, c =>
    if c = '"' then (.within .unicodeName [], [])
    else if c = '\'' then (.within .unicodeLiteral [], [])
    else preceded (.word [letter]) (stepOperator ['&'] c)
  | .within q content, c =>
    if c = q.mark then (.closing q content, [])
    else if q = .escaped && c = '\\' then (.escape content, [])
    else (.within q (content ++ [c]), [])
  | .escape content, c => (.within .escaped (content ++ ['\\', c]), [])
  | .closing q content, c => stepClosing q content c
  | .apart q content line, c => stepApart q content line c
  | .lineComment, c => (if isLineEnd c then .between else .lineComment, [])
  | .comment depth last, c => stepComment depth last c

/-- The tokens that are found when reading goes on to the end of the text. -/
def lex : Mode → List Char → List Token
  | m, [] => flush m
  | m, c :: cs => (step m c).2 ++ lex (step m c).1 cs

def tokens (text : String) : List Token := lex .between text.toList

/-! ### Parts of a text -/

/-- How far reading has come after these characters. -/
def reading (m : Mode) (cs : List Char) : Mode := cs.foldl (fun m c => (step m c).1) m

/-- The tokens that have come to an end meanwhile. -/
def found : Mode → List Char → List Token
  | _, [] => []
  | m, c :: cs => (step m c).2 ++ found (step m c).1 cs

theorem lex_append (m : Mode) (cs rest : List Char) :
    lex m (cs ++ rest) = found m cs ++ lex (reading m cs) rest := by
  induction cs generalizing m with
  | nil => rfl
  | cons c cs ih =>
    rw [List.cons_append, lex, ih, found, List.append_assoc]
    rfl

theorem lex_eq (m : Mode) (cs : List Char) : lex m cs = found m cs ++ flush (reading m cs) := by
  have h := lex_append m cs []
  rwa [List.append_nil] at h

/-- A name may begin here: the token before it ends like at the end of a text. -/
def Ready (m : Mode) : Prop := step m '"' = (.within .name [], flush m)

instance (m : Mode) : Decidable (Ready m) :=
  inferInstanceAs (Decidable (step m '"' = (.within .name [], flush m)))

theorem lex_within {cs : List Char} (h : '"' ∉ cs) (content rest : List Char) :
    lex (.within .name content) (cs ++ '"' :: rest) =
      lex (.closing .name (content ++ cs)) rest := by
  induction cs generalizing content with
  | nil =>
    rw [List.nil_append, List.append_nil]
    rfl
  | cons c cs ih =>
    obtain ⟨hc, hcs⟩ := not_or.mp (mt List.mem_cons.mpr h)
    have hstep : step (.within .name content) c = (.within .name (content ++ [c]), []) := by
      have hne : ¬ c = Quoting.name.mark := fun heq => hc heq.symm
      simp [step, hne]
    rw [List.cons_append, lex, hstep, ih hcs, List.append_assoc]
    rfl

theorem lex_closing {cs : List Char} (h : cs.head? ≠ some '"') (content : List Char) :
    lex (.closing .name content) cs = .quoted .name content :: lex .between cs := by
  cases cs with
  | nil => rfl
  | cons c cs =>
    have hne : ¬ c = Quoting.name.mark := fun heq => h (congrArg some heq)
    have hquote : ¬ Quoting.name.mark = '\'' := by decide
    have hstep : step (.closing .name content) c = ended [.quoted .name content] c := by
      simp [step, stepClosing, hne, hquote]
    rw [lex, hstep, lex]
    rfl

theorem lex_name {m : Mode} (hm : Ready m) {s : String} (hs : '"' ∉ s.toList) {rest : List Char}
    (hrest : rest.head? ≠ some '"') :
    lex m ((Fragment.name s).text.toList ++ rest) = flush m ++ .name s :: lex .between rest := by
  have hchars : (Fragment.name s).text.toList ++ rest = '"' :: (s.toList ++ '"' :: rest) := by
    simp [Fragment.text]
  rw [hchars, lex, hm, lex_within hs, List.nil_append, lex_closing hrest]
  rfl

/-! ### Words and names -/

/-- Words and names alternate, from words on or from a name on. Words that a name follows are such
that it may begin there, and no name holds a quotation mark. -/
inductive Alternating : (fromWords : Bool) → List Fragment → Prop where
  | nil (fromWords : Bool) : Alternating fromWords []
  | words {s : String} {rest : List Fragment} (hne : s.toList ≠ [])
      (hfirst : s.toList.head? ≠ some '"')
      (hlast : rest ≠ [] → Ready (reading .between s.toList)) (h : Alternating false rest) :
      Alternating true (.words s :: rest)
  | name {s : String} {rest : List Fragment} (hs : '"' ∉ s.toList) (h : Alternating true rest) :
      Alternating false (.name s :: rest)

def fragmentTokens : Fragment → List Token
  | .words s => tokens s
  | .name s => [.name s]

theorem toList_join_cons (fragment : Fragment) (rest : List Fragment) :
    (Fragment.join (fragment :: rest)).toList =
      fragment.text.toList ++ (Fragment.join rest).toList := by
  rw [Fragment.join, List.map_cons, String.join_cons, String.toList_append, Fragment.join]

theorem Alternating.head {fragments : List Fragment} (h : Alternating true fragments) :
    (Fragment.join fragments).toList.head? ≠ some '"' := by
  cases h with
  | nil => exact nofun
  | words hne hfirst _ _ =>
    rw [toList_join_cons, Fragment.text, List.head?_append_of_ne_nil _ hne]
    exact hfirst

theorem Alternating.lex_join {fromWords : Bool} {fragments : List Fragment}
    (h : Alternating fromWords fragments) (m : Mode)
    (hm : if fromWords then m = .between else fragments ≠ [] → Ready m) :
    lex m (Fragment.join fragments).toList = flush m ++ fragments.flatMap fragmentTokens := by
  induction h generalizing m with
  | nil => exact (List.append_nil _).symm
  | words hne hfirst hlast _ ih =>
    obtain rfl : m = .between := hm
    rw [toList_join_cons, Fragment.text, lex_append, ih _ hlast, ← List.append_assoc, ← lex_eq,
      List.flatMap_cons]
    rfl
  | name hs hrest ih =>
    rw [toList_join_cons, lex_name (hm (List.cons_ne_nil _ _)) hs hrest.head, ih .between rfl,
      List.flatMap_cons]
    rfl

/-- The tokens of a text are those of its parts. -/
theorem tokens_join {fragments : List Fragment} (h : Alternating true fragments) :
    tokens (Fragment.join fragments) = fragments.flatMap fragmentTokens :=
  h.lex_join .between rfl

end Delivery.Lexer
