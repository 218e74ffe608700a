import ScopeResolution.Declaration.DeclType

/-! # Equality of declared types

Two declared types are compared node by node. Where a parameter type is compared, the qualifiers of
its outermost part do not count, nor do the exception specifications of its own function nodes.
Parameter types inside a signature are always compared as parameter types, and exception
specifications are compared as sets. -/

namespace ScopeResolution

/-- What a comparison of types is for. -/
inductive Comparison where
  /-- Whole declared types. -/
  | declaration
  /-- Parameter types. -/
  | parameter
deriving DecidableEq, Repr, Inhabited

mutual

/-- Whether two types are the same for a comparison. -/
def DeclType.same (comparison : Comparison) (first second : DeclType) : Bool :=
  match first, second with
  | ⟨base, qualifiers, derived⟩, ⟨base', qualifiers', derived'⟩ =>
    base == base'
      && ((comparison == .parameter && derived.isEmpty) || qualifiers == qualifiers')
      && Derived.sameAll comparison (comparison == .parameter) derived derived'
termination_by structural first

/-- Whether two lists of nodes agree node by node; `lenient` says that the qualifiers of the first
nodes do not count. -/
def Derived.sameAll (comparison : Comparison) (lenient : Bool) (first second : List Derived) :
    Bool :=
  match first, second with
  | [], [] => true
  | node :: rest, node' :: rest' =>
    Derived.same comparison lenient node node' && Derived.sameAll comparison false rest rest'
  | _, _ => false
termination_by structural first

/-- Whether two nodes agree; `lenient` says that their own qualifiers do not count. -/
def Derived.same (comparison : Comparison) (lenient : Bool) (first second : Derived) : Bool :=
  match first, second with
  | .pointer qualifiers, .pointer qualifiers' => lenient || qualifiers == qualifiers'
  | .reference, .reference => true
  | .array size, .array size' => size == size'
  | .memberPointer owner qualifiers, .memberPointer owner' qualifiers' =>
    owner == owner' && (lenient || qualifiers == qualifiers')
  | .function signature, .function signature' => Signature.same comparison signature signature'
  | _, _ => false
termination_by structural first

/-- Whether two signatures agree in everything that the comparison counts. -/
def Signature.same (comparison : Comparison) (first second : Signature) : Bool :=
  match first, second with
  | ⟨params, qualifiers, throws, variadic, convention⟩,
    ⟨params', qualifiers', throws', variadic', convention'⟩ =>
    DeclType.sameParams params params' && variadic == variadic'
      && qualifiers == qualifiers'
      && convention == convention'
      && (comparison == .parameter || DeclType.sameThrows throws throws')
termination_by structural first

/-- Whether two lists of parameter types agree one by one. -/
def DeclType.sameParams (first second : List DeclType) : Bool :=
  match first, second with
  | [], [] => true
  | type :: rest, type' :: rest' =>
    DeclType.same .parameter type type' && DeclType.sameParams rest rest'
  | _, _ => false
termination_by structural first

/-- Whether two exception specifications name the same types, in any order and number. -/
def DeclType.sameThrows (first second : Option (List DeclType)) : Bool :=
  match first, second with
  | none, none => true
  | some types, some types' =>
    DeclType.allAmong types types' && types'.all fun type' => DeclType.anySame types type'
  | _, _ => false
termination_by structural first

/-- Whether each type of the first list is the same declared type as one of the second. -/
def DeclType.allAmong (first second : List DeclType) : Bool :=
  match first with
  | [] => true
  | type :: rest =>
    second.any (fun type' => DeclType.same .declaration type type')
      && DeclType.allAmong rest second
termination_by structural first

/-- Whether some type of the list is the same declared type as the given one. -/
def DeclType.anySame (first : List DeclType) (second : DeclType) : Bool :=
  match first with
  | [] => false
  | type :: rest => DeclType.same .declaration type second || DeclType.anySame rest second
termination_by structural first

end

/-- Whether two signatures take the same parameters: the same types, and further arguments in both
or in neither. -/
def Signature.sameParameters (first second : Signature) : Bool :=
  DeclType.sameParams first.params second.params && first.variadic == second.variadic

end ScopeResolution
