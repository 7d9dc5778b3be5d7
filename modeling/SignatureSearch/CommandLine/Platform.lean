import SignatureSearch.Session.Querying
import SignatureSearch.Settings.Assignments

/-!
# What a run relies on

Not all that decides a run is the program's own.  How a file of assignments is read, whether an
answer may hold a text that has no octets, which characters standard output takes, and whether
tracing and metrics start at all, is settled by what the program is built on and where it runs.
These things are named here, and a run takes them as they are given.

It is taken for granted that standard output takes every line of which it takes the characters, and
that messages can always be written.
-/

namespace SignatureSearch
namespace CommandLine

/-- What the program is built on, and where it runs. -/
structure Platform where
  /-- The assignments that the text of a file makes in an environment. -/
  readAssignments : List (String × String) → String → List (String × Option String) :=
    Settings.Assignments.read
  /-- Whether a character stands for something in an argument that is no text, an octet that starts
  no character, say.  Such a character is a sign that is in use nowhere else: it is read, compared
  and shown like other signs, but there are no octets for it. -/
  isEscape : Char → Bool := fun _ => false
  /-- Whether standard output takes a character. -/
  encodes : Char → Bool := fun _ => true
  /-- Whether an answer may hold a text for which there are no octets. -/
  answersEscapes : Bool := true
  /-- Why tracing or metrics do not start, if they do not. -/
  telemetry? : Option String := none

namespace Platform

/-- Whether there are octets for a text. -/
def isClean (platform : Platform) (text : String) : Bool :=
  text.toList.all fun c => !platform.isEscape c

/-- Whether a line can be printed. -/
def prints (platform : Platform) (line : String) : Bool :=
  platform.isClean line && line.toList.all platform.encodes

/-- Whether results may be the answer to a query.  Their packages have been named by arguments; all
else that they hold has been read from files. -/
def admits (platform : Platform) (query : String) (results : List Session.Result) : Bool :=
  platform.answersEscapes
    || (query :: results.map fun result => result.entry.package).all platform.isClean

end Platform
end CommandLine
end SignatureSearch
