import Asymptote.Text.Basic

/-! # Languages
The languages whose lexical rules are known. A language comes from a tag, from a file name or from
the look of the code; `unknown` has the rules of the C family. -/
namespace Asymptote

inductive Language where
  | python
  | javaScript
  | typeScript
  | java
  | cpp
  | c
  | cSharp
  | go
  | rust
  | kotlin
  | swift
  | ruby
  | unknown
  deriving DecidableEq, Repr, Inhabited

namespace Language

def name : Language → String
  | python => "Python"
  | javaScript => "JavaScript"
  | typeScript => "TypeScript"
  | java => "Java"
  | cpp => "C++"
  | c => "C"
  | cSharp => "C#"
  | go => "Go"
  | rust => "Rust"
  | kotlin => "Kotlin"
  | swift => "Swift"
  | ruby => "Ruby"
  | unknown => "Unknown"

def tags : List (Language × List String) :=
  [(python, ["python", "python3", "py", "py3"]),
    (javaScript, ["javascript", "js", "node", "nodejs", "jsx"]),
    (typeScript, ["typescript", "ts", "tsx"]),
    (java, ["java"]),
    (cpp, ["c++", "cpp", "cxx", "cc"]),
    (c, ["c"]),
    (cSharp, ["c#", "csharp", "cs"]),
    (go, ["go", "golang"]),
    (rust, ["rust", "rs"]),
    (kotlin, ["kotlin", "kt"]),
    (swift, ["swift"]),
    (ruby, ["ruby", "rb"])]

def extensions : List (Language × List String) :=
  [(python, ["py", "pyw"]),
    (javaScript, ["js", "mjs", "cjs", "jsx"]),
    (typeScript, ["ts", "mts", "cts", "tsx"]),
    (java, ["java"]),
    (cpp, ["cpp", "cc", "cxx", "hpp", "hh"]),
    (c, ["c", "h"]),
    (cSharp, ["cs"]),
    (go, ["go"]),
    (rust, ["rs"]),
    (kotlin, ["kt", "kts"]),
    (swift, ["swift"]),
    (ruby, ["rb"])]

def lookup? (word : Text) (table : List (Language × List String)) : Option Language :=
  (table.find? fun entry => entry.2.any fun w => w.toList = word).map (·.1)

def ofTag (tag : Text) : Language :=
  (lookup? ((Text.trim tag).map Char.toLower) tags).getD unknown

def ofExtension? (extension : Text) : Option Language :=
  lookup? extension extensions

/-- The last component of a path that names something: empty components and single dots that
follow another component are passed over; two dots name no file. -/
def fileName? (path : Text) : Option Text :=
  let parts := Text.pieces '/' path
  let named := (parts.mapIdx fun i p => (i, p)).filter fun (i, p) =>
    !p.isEmpty && (p ≠ ['.'] || i = 0)
  match named.getLast? with
  | some (_, p) => if p = ['.', '.'] || p = ['.'] then none else some p
  | none => none

def extension? (fileName : Text) : Option Text :=
  let tail := fileName.reverse.takeWhile (· ≠ '.')
  if tail.length + 1 < fileName.length then some tail.reverse else none

def ofPath? (path : Text) : Option Language :=
  fileName? path >>= extension? >>= ofExtension?

def infer (code : Text) : Language :=
  let has (part : String) : Bool := Text.contains code part
  if has "fn " && (has "let " || has "->" || has "&mut") then rust
  else if has "func " && (has ":=" || has "package ") then go
  else if has "def " && has ":" && !has "\x7b" then
    if has "end\n" || Text.endsWith (Text.trimEnd code) "end" then ruby else python
  else if has "#include" || has "std::" || has "vector<" then cpp
  else if has "System.out" || has "public class" || has "public int" then java
  else if has "fun " && has "val " then kotlin
  else if has "function" || has "=>" || has "const " || has "let " then javaScript
  else unknown

/-- Blocks extend by indentation. Where a keyword at the opener's indentation closes a block, the
same rule finds its extent. -/
def isOffside (l : Language) : Bool :=
  l = python || l = ruby

def lineComments : Language → List Text
  | python | ruby => ["#".toList]
  | unknown => ["//".toList, "# ".toList]
  | _ => ["//".toList]

def hasBlockComments (l : Language) : Bool :=
  !l.isOffside

def quotesSingly (l : Language) : Bool :=
  l ≠ rust

def slicesCopy (l : Language) : Bool :=
  l = python

def stringsAreFixed (l : Language) : Bool :=
  !(l = rust || l = cpp || l = ruby)

end Language
end Asymptote
