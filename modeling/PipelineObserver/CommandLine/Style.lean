/-!
Styles of text on a terminal, set and reset by escape sequences.
-/
namespace PipelineObserver

inductive Style where
  | bold
  | dimmed
  | red
  | green
  | yellow
  | blue
  | cyan
  deriving DecidableEq

namespace Style

def code : Style → String
  | bold => "1"
  | dimmed => "2"
  | red => "31"
  | green => "32"
  | yellow => "33"
  | blue => "34"
  | cyan => "36"

def sequence (parameter : String) : String := "\x1b[" ++ parameter ++ "m"

def reset : String := sequence "0"

/-- Sets a style again after each reset inside a text. -/
def resume (again : List Char) : List Char → List Char
  | '\x1b' :: '[' :: '0' :: 'm' :: rest => reset.toList ++ again ++ resume again rest
  | c :: rest => c :: resume again rest
  | [] => []

end Style

abbrev Colored := Bool

/-- A text in a style, which is reset after it. -/
def Colored.paint (colored : Colored) (style : Style) (text : String) : String :=
  if colored then
    let set := Style.sequence style.code
    set ++ String.ofList (Style.resume set.toList text.toList) ++ Style.reset
  else text

end PipelineObserver
