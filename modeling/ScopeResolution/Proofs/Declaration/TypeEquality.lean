import ScopeResolution.Declaration.Redeclaration

/-! # Equality of declared types is reflexive and symmetric

The comparison of declared types walks down the first of the two types, and treats the two sides
differently where it looks for exception specifications. It is symmetric all the same, at every
depth of function types in parameters of function types, so that the same two signatures stand for
the same overload in either order (`Signature.sameOverload_comm`). Every type is the same as itself
(`DeclType.same_self`), and so is what aliases, objects and signatures are made of. -/

namespace ScopeResolution

/-- Lists of nodes that agree are both empty or both not. -/
theorem Derived.isEmpty_eq_of_sameAll {comparison : Comparison} {lenient : Bool}
    {first second : List Derived} (same : Derived.sameAll comparison lenient first second = true) :
    first.isEmpty = second.isEmpty := by
  cases first with
  | nil =>
      cases second with
      | nil => rfl
      | cons node rest => simp [Derived.sameAll] at same
  | cons node rest =>
      cases second with
      | nil => simp [Derived.sameAll] at same
      | cons node' rest' => rfl

/-- Some type of a list is the same as another one when any of them is. -/
theorem DeclType.anySame_eq_any (types : List DeclType) (other : DeclType) :
    DeclType.anySame types other = types.any fun type => DeclType.same .declaration type other := by
  induction types with
  | nil => rfl
  | cons type rest ih => rw [DeclType.anySame, ih, List.any_cons]

/-- The types of one list are among those of another one when all of them are. -/
theorem DeclType.allAmong_eq_all (types others : List DeclType) :
    DeclType.allAmong types others =
      types.all fun type => others.any fun other => DeclType.same .declaration type other := by
  induction types with
  | nil => rfl
  | cons type rest ih => rw [DeclType.allAmong, ih, List.all_cons]

mutual

/-- Types that are the same are the same the other way around. -/
theorem DeclType.same_symm (comparison : Comparison) (first second : DeclType)
    (same : DeclType.same comparison first second = true) :
    DeclType.same comparison second first = true := by
  obtain ⟨base, qualifiers, derived⟩ := first
  obtain ⟨base', qualifiers', derived'⟩ := second
  simp only [DeclType.same, Bool.and_eq_true, Bool.or_eq_true, beq_iff_eq] at same ⊢
  obtain ⟨⟨bases, outermost⟩, nodes⟩ := same
  rw [Derived.isEmpty_eq_of_sameAll nodes] at outermost
  exact ⟨⟨bases.symm, outermost.imp_right Eq.symm⟩,
    Derived.sameAll_symm comparison _ derived derived' nodes⟩
termination_by structural first

/-- Lists of nodes that agree do so the other way around. -/
theorem Derived.sameAll_symm (comparison : Comparison) (lenient : Bool)
    (first second : List Derived) (same : Derived.sameAll comparison lenient first second = true) :
    Derived.sameAll comparison lenient second first = true := by
  match first, second with
  | [], [] => exact same
  | [], _ :: _ => simp [Derived.sameAll] at same
  | _ :: _, [] => simp [Derived.sameAll] at same
  | node :: rest, node' :: rest' =>
    simp only [Derived.sameAll, Bool.and_eq_true] at same ⊢
    exact ⟨Derived.same_symm comparison lenient node node' same.1,
      Derived.sameAll_symm comparison false rest rest' same.2⟩
termination_by structural first

/-- Nodes that agree do so the other way around. -/
theorem Derived.same_symm (comparison : Comparison) (lenient : Bool) (first second : Derived)
    (same : Derived.same comparison lenient first second = true) :
    Derived.same comparison lenient second first = true := by
  match first, second with
  | .pointer qualifiers, .pointer qualifiers' =>
    simp only [Derived.same, Bool.or_eq_true, beq_iff_eq] at same ⊢
    exact same.imp_right Eq.symm
  | .reference, .reference => rfl
  | .array size, .array size' =>
    simp only [Derived.same, beq_iff_eq] at same ⊢
    exact same.symm
  | .memberPointer owner qualifiers, .memberPointer owner' qualifiers' =>
    simp only [Derived.same, Bool.and_eq_true, Bool.or_eq_true, beq_iff_eq] at same ⊢
    exact ⟨same.1.symm, same.2.imp_right Eq.symm⟩
  | .function signature, .function signature' =>
    simp only [Derived.same] at same ⊢
    exact Signature.same_symm comparison signature signature' same
  | .pointer _, .reference | .pointer _, .array _ | .pointer _, .memberPointer _ _
  | .pointer _, .function _ | .reference, .pointer _ | .reference, .array _
  | .reference, .memberPointer _ _ | .reference, .function _ | .array _, .pointer _
  | .array _, .reference | .array _, .memberPointer _ _ | .array _, .function _
  | .memberPointer _ _, .pointer _ | .memberPointer _ _, .reference
  | .memberPointer _ _, .array _ | .memberPointer _ _, .function _ | .function _, .pointer _
  | .function _, .reference | .function _, .array _ | .function _, .memberPointer _ _ =>
    simp [Derived.same] at same
termination_by structural first

/-- Signatures that agree do so the other way around. -/
theorem Signature.same_symm (comparison : Comparison) (first second : Signature)
    (same : Signature.same comparison first second = true) :
    Signature.same comparison second first = true := by
  obtain ⟨params, qualifiers, throws, variadic, convention⟩ := first
  obtain ⟨params', qualifiers', throws', variadic', convention'⟩ := second
  simp only [Signature.same, Bool.and_eq_true, Bool.or_eq_true, beq_iff_eq] at same ⊢
  obtain ⟨⟨⟨⟨parameters, variadics⟩, quals⟩, conventions⟩, exceptions⟩ := same
  refine ⟨⟨⟨⟨DeclType.sameParams_symm params params' parameters, variadics.symm⟩, quals.symm⟩,
    conventions.symm⟩, ?_⟩
  exact exceptions.imp_right (DeclType.sameThrows_symm throws throws')
termination_by structural first

/-- Parameter types that agree do so the other way around. -/
theorem DeclType.sameParams_symm (first second : List DeclType)
    (same : DeclType.sameParams first second = true) :
    DeclType.sameParams second first = true := by
  match first, second with
  | [], [] => exact same
  | [], _ :: _ => simp [DeclType.sameParams] at same
  | _ :: _, [] => simp [DeclType.sameParams] at same
  | type :: rest, type' :: rest' =>
    simp only [DeclType.sameParams, Bool.and_eq_true] at same ⊢
    exact ⟨DeclType.same_symm .parameter type type' same.1,
      DeclType.sameParams_symm rest rest' same.2⟩
termination_by structural first

/-- Where some type of a list is the same as another one, that one is the same as it. -/
theorem DeclType.any_of_anySame (types : List DeclType) (other : DeclType)
    (found : DeclType.anySame types other = true) :
    (types.any fun type => DeclType.same .declaration other type) = true := by
  match types with
  | [] => simp [DeclType.anySame] at found
  | type :: rest =>
    simp only [DeclType.anySame, List.any_cons, Bool.or_eq_true] at found ⊢
    exact found.imp (DeclType.same_symm .declaration type other)
      (DeclType.any_of_anySame rest other)
termination_by structural types

/-- Where the types of a list are among others, some other one is the same as each of them. -/
theorem DeclType.all_of_allAmong (types others : List DeclType)
    (among : DeclType.allAmong types others = true) :
    (types.all fun type => DeclType.anySame others type) = true := by
  match types with
  | [] => rfl
  | type :: rest =>
    simp only [DeclType.allAmong, List.all_cons, Bool.and_eq_true] at among ⊢
    refine ⟨?_, DeclType.all_of_allAmong rest others among.2⟩
    -- The search goes through the other list here, so it is turned around for one type at a time.
    rw [DeclType.anySame_eq_any, List.any_eq_true]
    obtain ⟨other, listed, same⟩ := List.any_eq_true.1 among.1
    exact ⟨other, listed, DeclType.same_symm .declaration type other same⟩
termination_by structural types

/-- Exception specifications that agree do so the other way around. -/
theorem DeclType.sameThrows_symm (first second : Option (List DeclType))
    (same : DeclType.sameThrows first second = true) :
    DeclType.sameThrows second first = true := by
  match first, second with
  | none, none => exact same
  | none, some _ => simp [DeclType.sameThrows] at same
  | some _, none => simp [DeclType.sameThrows] at same
  | some types, some types' =>
    simp only [DeclType.sameThrows, Bool.and_eq_true] at same ⊢
    -- The two halves of the comparison change places; each is symmetric for the first list alone.
    obtain ⟨among, found⟩ := same
    refine ⟨?_, DeclType.all_of_allAmong types types' among⟩
    rw [DeclType.allAmong_eq_all, List.all_eq_true]
    intro type' listed
    exact DeclType.any_of_anySame types type' (List.all_eq_true.1 found type' listed)
termination_by structural first

end

mutual

/-- A type is the same as itself. -/
theorem DeclType.same_self (comparison : Comparison) (type : DeclType) :
    DeclType.same comparison type type = true := by
  obtain ⟨base, qualifiers, derived⟩ := type
  simp only [DeclType.same, beq_self_eq_true, Bool.or_true, Bool.true_and]
  exact Derived.sameAll_self comparison _ derived
termination_by structural type

/-- A list of nodes agrees with itself. -/
theorem Derived.sameAll_self (comparison : Comparison) (lenient : Bool) (nodes : List Derived) :
    Derived.sameAll comparison lenient nodes nodes = true := by
  match nodes with
  | [] => rfl
  | node :: rest =>
    simp only [Derived.sameAll, Bool.and_eq_true]
    exact ⟨Derived.same_self comparison lenient node,
      Derived.sameAll_self comparison false rest⟩
termination_by structural nodes

/-- A node agrees with itself. -/
theorem Derived.same_self (comparison : Comparison) (lenient : Bool) (node : Derived) :
    Derived.same comparison lenient node node = true := by
  match node with
  | .pointer qualifiers => simp [Derived.same]
  | .reference => rfl
  | .array size => simp [Derived.same]
  | .memberPointer owner qualifiers => simp [Derived.same]
  | .function signature => exact Signature.same_self comparison signature
termination_by structural node

/-- A signature agrees with itself. -/
theorem Signature.same_self (comparison : Comparison) (signature : Signature) :
    Signature.same comparison signature signature = true := by
  obtain ⟨params, qualifiers, throws, variadic, convention⟩ := signature
  simp only [Signature.same, beq_self_eq_true, Bool.and_true, Bool.and_eq_true, Bool.or_eq_true]
  exact ⟨DeclType.sameParams_self params, Or.inr (DeclType.sameThrows_self throws)⟩
termination_by structural signature

/-- Parameter types agree with themselves. -/
theorem DeclType.sameParams_self (types : List DeclType) :
    DeclType.sameParams types types = true := by
  match types with
  | [] => rfl
  | type :: rest =>
    simp only [DeclType.sameParams, Bool.and_eq_true]
    exact ⟨DeclType.same_self .parameter type, DeclType.sameParams_self rest⟩
termination_by structural types

/-- Each type of a list is the same as itself. -/
theorem DeclType.all_same_self (types : List DeclType) :
    (types.all fun type => DeclType.same .declaration type type) = true := by
  match types with
  | [] => rfl
  | type :: rest =>
    simp only [List.all_cons, Bool.and_eq_true]
    exact ⟨DeclType.same_self .declaration type, DeclType.all_same_self rest⟩
termination_by structural types

/-- An exception specification agrees with itself. -/
theorem DeclType.sameThrows_self (throws : Option (List DeclType)) :
    DeclType.sameThrows throws throws = true := by
  match throws with
  | none => rfl
  | some types =>
    -- Every type finds itself on the other side, in both directions.
    have itself := List.all_eq_true.1 (DeclType.all_same_self types)
    simp only [DeclType.sameThrows, Bool.and_eq_true, DeclType.allAmong_eq_all,
      DeclType.anySame_eq_any, List.all_eq_true, List.any_eq_true]
    exact ⟨fun type listed => ⟨type, listed, itself type listed⟩,
      fun type listed => ⟨type, listed, itself type listed⟩⟩
termination_by structural throws

end

/-- A signature takes the same parameters as itself. -/
theorem Signature.sameParameters_self (signature : Signature) :
    signature.sameParameters signature = true := by
  simp [Signature.sameParameters, DeclType.sameParams_self]

/-- A signature stands for the same overload as itself. -/
theorem Signature.sameOverload_self (signature : Signature) :
    signature.sameOverload signature = true := by
  simp [Signature.sameOverload, Signature.sameParameters_self]

/-- A function stands for the overload of its own signature. -/
theorem EntityKind.overloadType?_self {kind : EntityKind} {type : DeclType} {signature : Signature}
    (callable : kind.callable? = some (type, signature)) :
    kind.overloadType? signature = some type := by
  simp [EntityKind.overloadType?, callable, Signature.sameOverload_self]

/-- An object may be the same declaration as itself. -/
theorem EntityKind.sameObject_self (role : Role) (type : DeclType) (storage : Storage) :
    EntityKind.sameObject role (.object type storage) (.object type storage) = true := by
  simp [EntityKind.sameObject, Storage.compatible, DeclType.same_self]

/-- An alias is an alias of the same target as itself. -/
theorem EntityKind.sameAlias_self {kind : EntityKind}
    (isAlias : kind matches .alias _ | .namespaceAlias _) : kind.sameAlias kind = true := by
  match kind, isAlias with
  | .namespaceAlias target, _ => simp [EntityKind.sameAlias]
  | .alias (.entity target), _ => simp [EntityKind.sameAlias, AliasTarget.same]
  | .alias (.type type), _ => simp [EntityKind.sameAlias, AliasTarget.same, DeclType.same_self]

/-- Parameter types agree in either order or in none. -/
theorem DeclType.sameParams_comm (first second : List DeclType) :
    DeclType.sameParams first second = DeclType.sameParams second first :=
  Bool.eq_iff_iff.2 ⟨DeclType.sameParams_symm first second, DeclType.sameParams_symm second first⟩

/-- Signatures take the same parameters in either order or in none. -/
theorem Signature.sameParameters_comm (first second : Signature) :
    first.sameParameters second = second.sameParameters first := by
  unfold Signature.sameParameters
  have variadic : (first.variadic == second.variadic) = (second.variadic == first.variadic) :=
    BEq.comm
  rw [DeclType.sameParams_comm, variadic]

/-- Signatures stand for the same overload in either order or in none. -/
theorem Signature.sameOverload_comm (first second : Signature) :
    first.sameOverload second = second.sameOverload first := by
  unfold Signature.sameOverload
  have qualifiers :
      (first.qualifiers == second.qualifiers) = (second.qualifiers == first.qualifiers) := BEq.comm
  rw [Signature.sameParameters_comm, qualifiers]

end ScopeResolution
