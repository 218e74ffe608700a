import ScopeResolution.Declaration.Role
import ScopeResolution.Source.Diagnostic
import ScopeResolution.Table.Filing

/-! # Keywords

How the values of small types are written: with the keywords of the language that declares the
entities, or with the words of messages. What is not written at all has the empty word. -/

namespace ScopeResolution

/-- A type whose values are written as words. -/
class Worded (α : Type) where
  /-- The words with the values that they stand for. -/
  words : List (String × α)

namespace Worded

variable {α : Type} [Worded α]

/-- The value that a word stands for. -/
def read? (word : String) : Option α := (words (α := α)).lookup word

/-- The word for a value; none when it has no word of its own. -/
def write? [BEq α] (value : α) : Option String :=
  ((words (α := α)).find? (·.2 == value)).map (·.1)

end Worded

instance : Worded Access :=
  ⟨[.publicAccess, .protectedAccess, .privateAccess].map fun access => (access.text, access)⟩

instance : Worded Storage where
  words :=
    [("", .unwritten), ("extern", .external), ("static", .static), ("auto", .automatic),
      ("register", .register), ("mutable", .mutable)]

instance : Worded Qualifiers where
  words :=
    [("", {}), ("const", { isConst := true }), ("volatile", { isVolatile := true }),
      ("const volatile", { isConst := true, isVolatile := true })]

instance : Worded Sign where
  words := [("", .unwritten), ("signed", .signed), ("unsigned", .unsigned)]

instance : Worded Size where
  words := [("", .unwritten), ("short", .short), ("long", .long), ("long long", .longLong)]

instance : Worded Convention where
  words :=
    [("", .unwritten), ("cdecl", .cdecl), ("stdcall", .stdcall), ("fastcall", .fastcall)]

instance : Worded BaseCode where
  words :=
    [("void", .void), ("bool", .bool), ("char", .char), ("wchar_t", .wideChar), ("int", .int),
      ("float", .float), ("double", .double)]

instance : Worded ClassKey where
  words := [("class", .classKey), ("struct", .structKey), ("union", .unionKey)]

instance : Worded FunctionForm where
  words :=
    [("plain", .plain), ("constructor", .constructor), ("destructor", .destructor),
      ("operator", .operator), ("cast", .conversion)]

instance : Worded TemplateForm where
  words := [("none", .ordinary), ("template", .template), ("specialization", .specialization)]

instance : Worded BlockOpener where
  words := [("block", .block), ("catch", .handler)]

instance : Worded Role := ⟨Role.all.map fun role => (role.text, role)⟩

instance : Worded EntrySlot := ⟨EntrySlot.all.map fun slot => (slot.text, slot)⟩

instance : Worded Severity :=
  ⟨[.error, .warning, .note].map fun severity => (severity.text, severity)⟩

end ScopeResolution
