import Playground.Tool.Blocks
import Playground.Tool.Checksum
import Playground.Tool.Coding
import Playground.Tool.Dump
import Playground.Tool.Echo
import Playground.Tool.Expression
import Playground.Tool.Factor
import Playground.Tool.Find
import Playground.Tool.Jobs
import Playground.Tool.Listing
import Playground.Tool.Merge
import Playground.Tool.Search
import Playground.Tool.Sed
import Playground.Tool.Spacing
import Playground.Tool.Split

set_option autoImplicit false

/-! # The catalogue

The programs that are installed on the machine besides the shell, by name. -/

namespace Playground.Tool

open Machine (Bytes Program Script)

namespace Catalogue

def echo : Program := fun s => do
  match ← Script.writeAll Script.stdout (Echo.alone s.arguments) with
  | .ok () => return 0
  | .error e =>
      Script.complain s ("write error: ".toList ++ Script.errorText e)
      return 1

def printf : Program := fun s => do
  match s.arguments with
  | [] => Files.missingOperand s
  | format :: arguments =>
      let o := Format.write true format arguments
      Script.print o.text
      for c in o.complaints ++ o.fault.toList do
        Script.complain s c
      return if o.complaints.isEmpty ∧ o.fault.isNone then 0 else 1

def test (isBracket : Bool) : Program := fun s => do
  let words := if isBracket then Condition.bracketed s.arguments else .ok s.arguments
  match words with
  | .error _ =>
      Script.complain s "missing ']'".toList
      return 2
  | .ok words =>
      match ← Condition.holds true words with
      | .ok b => return if b then 0 else 1
      | .error e =>
          Script.complain s e
          return 2

def programs : List (String × Program) :=
  [("true", fun _ => return 0), ("false", fun _ => return 1), ("echo", echo), ("printf", printf),
    ("test", test false), ("[", test true), ("cat", Stream.cat), ("head", Stream.head),
    ("tee", Stream.tee), ("yes", Stream.yes), ("tail", Lines.tail), ("tac", Lines.tac),
    ("rev", Lines.rev), ("wc", Lines.wc), ("sort", Lines.sort), ("uniq", Lines.uniq),
    ("cut", Lines.cut), ("tr", Lines.tr), ("seq", Lines.seq), ("fold", Lines.fold),
    ("paste", Lines.paste), ("nl", Lines.nl), ("grep", Search.grep),
    ("egrep", Search.grepWith "-E"), ("fgrep", Search.grepWith "-F"), ("sed", Sed.sed),
    ("expr", Expression.expr), ("ls", Listing.ls), ("stat", Listing.stat), ("find", Find.find),
    ("od", Dump.od), ("base64", Coding.recode Coding.base64),
    ("base32", Coding.recode Coding.base32), ("md5sum", Checksum.sumOf Checksum.md5),
    ("sha1sum", Checksum.sumOf Checksum.sha1), ("sha224sum", Checksum.sumOf Checksum.sha224),
    ("sha256sum", Checksum.sumOf Checksum.sha256), ("sha384sum", Checksum.sumOf Checksum.sha384),
    ("sha512sum", Checksum.sumOf Checksum.sha512), ("cksum", Checksum.cksum),
    ("sum", Checksum.sum), ("comm", Merge.comm), ("expand", Spacing.expand),
    ("unexpand", Spacing.unexpand), ("factor", Factor.factor), ("split", Split.split),
    ("dd", Blocks.dd), ("truncate", Blocks.truncate), ("cmp", Blocks.cmp),
    ("sync", fun _ => return 0), ("mkdir", Files.mkdir), ("rmdir", Files.rmdir), ("rm", Files.rm),
    ("cp", Files.cp), ("mv", Files.mv), ("ln", Files.ln), ("link", Files.link),
    ("unlink", Files.unlink), ("chmod", Files.chmod), ("touch", Files.touch),
    ("basename", Files.basename), ("dirname", Files.dirname),
    ("realpath", Files.realpath), ("readlink", Files.readlink), ("mktemp", Files.mktemp),
    ("pwd", Jobs.printDirectory), ("env", Jobs.env), ("printenv", Jobs.printenv),
    ("sleep", Jobs.sleep), ("timeout", Jobs.timeout), ("setsid", Jobs.setsid),
    ("nohup", Jobs.nohup), ("nice", Jobs.nice), ("kill", Jobs.kill), ("ps", Jobs.ps),
    ("which", Jobs.which), ("xargs", Jobs.xargs), ("id", Jobs.id), ("whoami", Jobs.saying "root" 0),
    ("groups", Jobs.groups), ("logname", Jobs.logname), ("stdbuf", Jobs.stdbuf),
    ("users", fun _ => return 0), ("who", fun _ => return 0),
    ("uname", Jobs.uname), ("tty", Jobs.saying "not a tty" 1), ("nproc", Jobs.saying "1" 0),
    ("arch", Jobs.saying "x86_64" 0), ("date", Jobs.date)]

def find? (name : String) : Option Program := programs.lookup name

end Catalogue

end Playground.Tool
