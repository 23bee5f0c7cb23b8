import Playground.Tool.Format

set_option autoImplicit false

/-! # Echoing

The arguments, with a blank between each two, on a line of their own. -/

namespace Playground.Tool

open Machine (Bytes)

namespace Echo

/-- What the shell echoes. Escapes stand for characters, and there is one option, which leaves the
    end of the line out. -/
def inShell (arguments : List Bytes) : Bytes :=
  let (arguments, ending) :=
    match arguments with
    | ['-', 'n'] :: rest => (rest, [])
    | arguments => (arguments, ['\n'])
  let (text, isStopped) := Format.unescaped false (Bytes.joinWith [' '] arguments)
  if isStopped then text else text ++ ending

/-- Letters of options after a dash. -/
def isOptions (b : Bytes) : Bool :=
  match b with
  | '-' :: c :: cs => (c :: cs).all fun d => "neE".toList.contains d
  | _ => false

/-- What the program echoes. Escapes stand for characters if an option says so. -/
def alone (arguments : List Bytes) : Bytes :=
  let options := arguments.takeWhile isOptions
  let letters := options.flatten
  let text := Bytes.joinWith [' '] (arguments.drop options.length)
  let ending : Bytes := if letters.contains 'n' then [] else ['\n']
  if (letters.reverse.find? fun c => c == 'e' || c == 'E') == some 'e' then
    let (text, isStopped) := Format.unescaped true text
    if isStopped then text else text ++ ending
  else text ++ ending

end Echo

end Playground.Tool
