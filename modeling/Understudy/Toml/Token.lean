/-!
# TOML tokens

A document is cut into marks, blanks, line ends, strings and words. Strings are
decoded here; a comment leaves no token, since a line end follows it or the
document is over. Reading a token takes at least one character, so as many steps
as there are characters are enough.
-/

set_option autoImplicit false

namespace Understudy.Toml

inductive Token where
  | mark (c : Char)
  | blank (chars : List Char)
  | newline
  | string (text : String) (multiline : Bool)
  | word (chars : List Char)
  deriving DecidableEq, Repr

namespace Token

def isMark (c : Char) : Bool := ".=,[]\x7b\x7d".toList.contains c

def isBlank (c : Char) : Bool := c = ' ' || c = '\t'

def isLineEnd (c : Char) : Bool := c = '\n' || c = '\r'

def isWordChar (c : Char) : Bool :=
  !(isMark c || isBlank c || isLineEnd c || c = '#' || c = '"' || c = '\'')

def isPlain (c : Char) : Bool := c = '\t' || (' ' ≤ c && c ≠ '\x7f')

def hexDigit? (c : Char) : Option Nat :=
  if '0' ≤ c ∧ c ≤ '9' then some (c.toNat - '0'.toNat)
  else if 'a' ≤ c ∧ c ≤ 'f' then some (c.toNat - 'a'.toNat + 10)
  else if 'A' ≤ c ∧ c ≤ 'F' then some (c.toNat - 'A'.toNat + 10)
  else none

def codePoint? (width : Nat) (digits : List Char) : Option Char := do
  let values ← digits.mapM hexDigit?
  if values.length ≠ width then none
  else
    let n := values.foldl (fun n d => n * 16 + d) 0
    if n.isValidChar then some (Char.ofNat n) else none

def escapeWidth? (c : Char) : Option Nat :=
  if c = 'x' then some 2 else if c = 'u' then some 4 else if c = 'U' then some 8 else none

def shortEscape? (c : Char) : Option Char :=
  if c = 'b' then some '\x08'
  else if c = 't' then some '\t'
  else if c = 'n' then some '\n'
  else if c = 'f' then some '\x0c'
  else if c = 'r' then some '\r'
  else if c = 'e' then some '\x1b'
  else if c = '"' then some '"'
  else if c = '\\' then some '\\'
  else none

def lineEnd? : List Char → Option (List Char)
  | '\n' :: rest => some rest
  | '\r' :: '\n' :: rest => some rest
  | _ => none

def skipSpace : List Char → List Char
  | [] => []
  | '\r' :: '\n' :: cs => skipSpace cs
  | c :: cs => if isBlank c || c = '\n' then skipSpace cs else c :: cs

theorem length_skipSpace_le (cs : List Char) : (skipSpace cs).length ≤ cs.length := by
  fun_induction skipSpace cs with
  | case1 => exact Nat.le_refl _
  | case2 cs ih => simp only [List.length_cons]; omega
  | case3 c cs _ _ ih => simp only [List.length_cons]; omega
  | case4 c cs _ _ => exact Nat.le_refl _

/-- After a backslash that ends a line: the rest behind all space. -/
def continuation? (cs : List Char) : Option (List Char) :=
  match lineEnd? (cs.dropWhile isBlank) with
  | some _ => some (skipSpace cs)
  | none => none

theorem length_continuation {cs rest : List Char} (h : continuation? cs = some rest) :
    rest.length ≤ cs.length := by
  unfold continuation? at h
  split at h
  · cases h
    exact length_skipSpace_le _
  · simp at h

def decode (multiline escapes : Bool) : List Char → Option (List Char)
  | [] => some []
  | '\r' :: '\n' :: rest => if multiline then (decode multiline escapes rest).map ('\r' :: '\n' :: ·) else none
  | '\n' :: rest => if multiline then (decode multiline escapes rest).map ('\n' :: ·) else none
  | '\\' :: c :: rest =>
    if escapes then
      match escapeWidth? c with
      | some width => do
        let d ← codePoint? width (rest.take width)
        (decode multiline escapes (rest.drop width)).map (d :: ·)
      | none =>
        match shortEscape? c with
        | some d => (decode multiline escapes rest).map (d :: ·)
        | none =>
          match _h : continuation? (c :: rest) with
          | some next => if multiline then decode multiline escapes next else none
          | none => none
    else (decode multiline escapes (c :: rest)).map ('\\' :: ·)
  | c :: rest =>
    if isPlain c && !(escapes && c == '\\') then (decode multiline escapes rest).map (c :: ·)
    else none
termination_by cs => cs.length
decreasing_by
  all_goals simp only [List.length_cons, List.length_drop]
  all_goals try omega
  have := length_continuation _h
  simp only [List.length_cons] at this
  omega

def untilQuote (quote : Char) (escapes : Bool) :
    List Char → List Char → Option (List Char × List Char)
  | [], _ => none
  | c :: cs, body =>
    if c = quote then some (body, cs)
    else if escapes ∧ c = '\\' then
      match cs with
      | [] => none
      | d :: ds => untilQuote quote escapes ds (d :: c :: body)
    else untilQuote quote escapes cs (c :: body)

/-- As `untilQuote`, for a string that three quotes close. Up to two quotes right
before them belong to the string. `run` counts the quotes just passed. -/
def untilQuotes (quote : Char) (escapes : Bool) :
    (run : Nat) → List Char → List Char → Option (List Char × List Char)
  | run, [], body => if 3 ≤ run then some (body.drop 3, []) else none
  | run, c :: cs, body =>
    if c = quote then
      if run = 4 then some ((c :: body).drop 3, cs)
      else untilQuotes quote escapes (run + 1) cs (c :: body)
    else if 3 ≤ run then some (body.drop 3, c :: cs)
    else if escapes ∧ c = '\\' then
      match cs with
      | [] => none
      | d :: ds => untilQuotes quote escapes 0 ds (d :: c :: body)
    else untilQuotes quote escapes 0 cs (c :: body)

/-- A string from behind its first quote. A line end right after three opening
quotes is left out. -/
def string? (quote : Char) (cs : List Char) : Option (Token × List Char) :=
  let escapes := quote == '"'
  match cs with
  | a :: b :: rest =>
    if a = quote ∧ b = quote then
      let rest := (lineEnd? rest).getD rest
      do
        let (body, rest) ← untilQuotes quote escapes 0 rest []
        let chars ← decode true escapes body.reverse
        some (.string (String.ofList chars) true, rest)
    else single escapes
  | _ => single escapes
where
  single (escapes : Bool) : Option (Token × List Char) := do
    let (body, rest) ← untilQuote quote escapes cs []
    let chars ← decode false escapes body.reverse
    some (.string (String.ofList chars) false, rest)

def next? (c : Char) (cs : List Char) : Option (Option Token × List Char) :=
  if isMark c then some (some (.mark c), cs)
  else if c = '\n' then some (some .newline, cs)
  else if c = '\r' then (lineEnd? (c :: cs)).map fun rest => (some .newline, rest)
  else if c = '#' then
    let comment := cs.takeWhile fun d => !isLineEnd d
    if comment.all isPlain then some (none, cs.dropWhile fun d => !isLineEnd d) else none
  else if c = '"' ∨ c = '\'' then (string? c cs).map fun (t, rest) => (some t, rest)
  else if isBlank c then some (some (.blank (c :: cs.takeWhile isBlank)), cs.dropWhile isBlank)
  else some (some (.word (c :: cs.takeWhile isWordChar)), cs.dropWhile isWordChar)

def read : (steps : Nat) → List Char → Option (List Token)
  | _, [] => some []
  | 0, _ :: _ => none
  | steps + 1, c :: cs => do
    let (token, rest) ← next? c cs
    let tokens ← read steps rest
    some (token.toList ++ tokens)

def ofText? (document : String) : Option (List Token) :=
  let cs := match document.toList with
    | '\ufeff' :: rest => rest
    | cs => cs
  read cs.length cs

end Token

end Understudy.Toml
