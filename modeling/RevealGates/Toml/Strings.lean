import RevealGates.Text.Hexadecimal
import RevealGates.Toml.Scan

/-!
TOML strings, in their four forms.

A basic string knows escapes and a literal string does not; either form on one line, or over several
between tripled marks. A tripled mark may be preceded by one or two marks that belong to the text.
-/

set_option autoImplicit false

namespace RevealGates.Toml.Strings

/-- The character with a given code point; surrogates are none. -/
def scalar? (digits : List Char) : Option Char := do
  let code ← Text.Hexadecimal.number? digits
  if Nat.isValidChar code then some (Char.ofNat code) else none

/-- The character that a one-letter escape stands for. -/
def shortEscape? : Char → Option Char
  | 'b' => some '\x08'
  | 't' => some '\t'
  | 'n' => some '\n'
  | 'f' => some '\x0c'
  | 'r' => some '\r'
  | '\x22' => some '\x22'
  | '\x5c' => some '\x5c'
  | _ => none

/-- Puts a character in front of what a scanner read. -/
def push (c : Char) (read : Option (List Char × List Char)) : Option (List Char × List Char) :=
  read.map fun (text, rest) => (c :: text, rest)

/-- The rest of a basic string after its opening mark. -/
def basic : Scanner (List Char)
  | '\x22' :: rest => some ([], rest)
  | '\x5c' :: 'u' :: a :: b :: c :: d :: rest => do push (← scalar? [a, b, c, d]) (basic rest)
  | '\x5c' :: 'U' :: a :: b :: c :: d :: e :: f :: g :: h :: rest => do
      push (← scalar? [a, b, c, d, e, f, g, h]) (basic rest)
  | '\x5c' :: c :: rest => do push (← shortEscape? c) (basic rest)
  | c :: rest => if isPlain c ∧ c ≠ '\x5c' then push c (basic rest) else none
  | [] => none

/-- The rest of a literal string after its opening mark. -/
def literal : Scanner (List Char)
  | '\x27' :: rest => some ([], rest)
  | c :: rest => if isPlain c then push c (literal rest) else none
  | [] => none

/-- Whether nothing but blanks stands before the next line break. -/
def endsLine (chars : List Char) : Bool :=
  (afterBreak? (skipBlanks chars)).isSome

/-- The rest of a basic string over several lines. Line breaks are line feeds in the result. After a
backslash that ends its line everything up to the next visible character is left out; `skipping`
says that the text stands there. -/
def basicLines (skipping : Bool) : Scanner (List Char)
  | '\x22' :: '\x22' :: '\x22' :: '\x22' :: '\x22' :: rest => some (['\x22', '\x22'], rest)
  | '\x22' :: '\x22' :: '\x22' :: '\x22' :: rest => some (['\x22'], rest)
  | '\x22' :: '\x22' :: '\x22' :: rest => some ([], rest)
  | '\x5c' :: rest =>
      if endsLine rest then basicLines true rest
      else
        match rest with
        | 'u' :: a :: b :: c :: d :: rest => do
            push (← scalar? [a, b, c, d]) (basicLines false rest)
        | 'U' :: a :: b :: c :: d :: e :: f :: g :: h :: rest => do
            push (← scalar? [a, b, c, d, e, f, g, h]) (basicLines false rest)
        | c :: rest => do push (← shortEscape? c) (basicLines false rest)
        | [] => none
  | '\n' :: rest => if skipping then basicLines true rest else push '\n' (basicLines false rest)
  | '\r' :: '\n' :: rest =>
      if skipping then basicLines true rest else push '\n' (basicLines false rest)
  | c :: rest =>
      if skipping && isBlank c then basicLines true rest
      else if isPlain c then push c (basicLines false rest)
      else none
  | [] => none

/-- The rest of a literal string over several lines. Line breaks are line feeds in the result. -/
def literalLines : Scanner (List Char)
  | '\x27' :: '\x27' :: '\x27' :: '\x27' :: '\x27' :: rest => some (['\x27', '\x27'], rest)
  | '\x27' :: '\x27' :: '\x27' :: '\x27' :: rest => some (['\x27'], rest)
  | '\x27' :: '\x27' :: '\x27' :: rest => some ([], rest)
  | '\n' :: rest => push '\n' (literalLines rest)
  | '\r' :: '\n' :: rest => push '\n' (literalLines rest)
  | c :: rest => if isPlain c then push c (literalLines rest) else none
  | [] => none

/-- Leaves out a line break right after an opening tripled mark. -/
def dropBreak (chars : List Char) : List Char :=
  (afterBreak? chars).getD chars

def string : Scanner String := fun chars =>
  let read :=
    match chars with
    | '\x22' :: '\x22' :: '\x22' :: rest => basicLines false (dropBreak rest)
    | '\x27' :: '\x27' :: '\x27' :: rest => literalLines (dropBreak rest)
    | '\x22' :: rest => basic rest
    | '\x27' :: rest => literal rest
    | _ => none
  read.map fun (text, rest) => (String.ofList text, rest)

def keyString : Scanner String := fun chars =>
  let read :=
    match chars with
    | '\x22' :: rest => basic rest
    | '\x27' :: rest => literal rest
    | _ => none
  read.map fun (text, rest) => (String.ofList text, rest)

end RevealGates.Toml.Strings
