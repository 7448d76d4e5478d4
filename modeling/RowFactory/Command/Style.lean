/-! # Styled messages

A styled text stands between a code for its tone and a code that ends every tone. Where the second is in the
text already, the tone starts again behind it. Without colours a text is left alone.
-/

namespace RowFactory.Command

inductive Tone where
  | heading
  | label
  | muted
  | success
  | warning
  | failure
  deriving DecidableEq, Repr

namespace Tone

def code : Tone → String
  | .heading => "1;96"
  | .label => "94"
  | .muted => "90"
  | .success => "92"
  | .warning => "33"
  | .failure => "1;31"

def start (tone : Tone) : List Char := "\x1b[".toList ++ tone.code.toList ++ ['m']

end Tone

/-- Repeats a start behind every code that ends a tone. -/
def restart (start : List Char) : List Char → List Char
  | '\x1b' :: '[' :: '0' :: 'm' :: rest => '\x1b' :: '[' :: '0' :: 'm' :: (start ++ restart start rest)
  | c :: rest => c :: restart start rest
  | [] => []

structure Style where
  coloured : Bool := false
  deriving DecidableEq, Repr

namespace Style

/-- Colours follow the terminal, unless the environment asks for or against them; a value of zero does not
ask. -/
def ofEnvironment (terminal : Bool) (wanted unwanted forced : Option String) : Style :=
  if forced.any (· ≠ "0") then ⟨true⟩
  else if unwanted.isSome then ⟨false⟩
  else ⟨wanted.all (· ≠ "0") && terminal⟩

def paint (style : Style) (tone : Tone) (text : String) : String :=
  if style.coloured then
    String.ofList (tone.start ++ restart tone.start text.toList ++ "\x1b[0m".toList)
  else text

def warningLine (style : Style) (text : String) : String :=
  let mark := style.paint .warning "Warning"
  s!"[{mark}] {text}"

def errorLine (style : Style) (text : String) : String :=
  let mark := style.paint .failure "Error"
  s!"{mark} {text}"

end Style

end RowFactory.Command
