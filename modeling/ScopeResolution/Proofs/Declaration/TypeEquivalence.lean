import Mathlib.Data.List.Basic
import ScopeResolution.Proofs.Declaration.TypeEquality

/-! # Equality of declared types is an equivalence

Both comparisons of declared types are transitive, at every depth of parameter types and exception
specifications (`DeclType.same_trans`). Exception specifications are compared as sets, so a type of
one is followed to one of the next and to one of the last, and the same way back
(`DeclType.sameThrows_trans`). Comparing parameter types comes to comparing declared types of which
that part was erased that does not count for a parameter (`DeclType.same_parameter_eq`). The main
statement is `sameType_equivalence`. -/

namespace ScopeResolution

/-! ## What agrees with a node -/

section

variable {comparison : Comparison} {lenient : Bool} {node : Derived}

/-- What agrees with a pointer is a pointer, with the same qualifiers if they count. -/
theorem Derived.same_pointer_iff {qualifiers : Qualifiers} :
    Derived.same comparison lenient (.pointer qualifiers) node = true ↔
      ∃ qualifiers', node = .pointer qualifiers' ∧ (lenient = true ∨ qualifiers = qualifiers') := by
  cases node <;> simp [Derived.same]

/-- What agrees with a reference is a reference. -/
theorem Derived.same_reference_iff :
    Derived.same comparison lenient .reference node = true ↔ node = .reference := by
  cases node <;> simp [Derived.same]

/-- What agrees with an array is an array of the same size. -/
theorem Derived.same_array_iff {size : Option Nat} :
    Derived.same comparison lenient (.array size) node = true ↔ node = .array size := by
  cases node <;> simp [Derived.same]
  exact eq_comm

/-- What agrees with a pointer to a member is one to a member of the same class, with the same
qualifiers if they count. -/
theorem Derived.same_memberPointer_iff {owner : EntityId} {qualifiers : Qualifiers} :
    Derived.same comparison lenient (.memberPointer owner qualifiers) node = true ↔
      ∃ qualifiers', node = .memberPointer owner qualifiers' ∧
        (lenient = true ∨ qualifiers = qualifiers') := by
  cases node <;> simp [Derived.same]
  tauto

/-- What agrees with a function is a function whose signature agrees. -/
theorem Derived.same_function_iff {signature : Signature} :
    Derived.same comparison lenient (.function signature) node = true ↔
      ∃ signature', node = .function signature' ∧
        Signature.same comparison signature signature' = true := by
  cases node <;> simp [Derived.same]

/-- What agrees with a list of nodes that has a first one has a first one, too. -/
theorem Derived.sameAll_cons_iff {rest nodes : List Derived} :
    Derived.sameAll comparison lenient (node :: rest) nodes = true ↔
      ∃ node' rest', nodes = node' :: rest' ∧ Derived.same comparison lenient node node' = true ∧
        Derived.sameAll comparison false rest rest' = true := by
  cases nodes <;> simp [Derived.sameAll]

end

/-- Exception specifications agree when each type of either one is the same as some type of the
other one. -/
theorem DeclType.sameThrows_iff {types types' : List DeclType} :
    DeclType.sameThrows (some types) (some types') = true ↔
      (∀ type ∈ types, ∃ type' ∈ types', DeclType.same .declaration type type' = true) ∧
        ∀ type' ∈ types', ∃ type ∈ types, DeclType.same .declaration type' type = true := by
  have turned (type type' : DeclType) : DeclType.same .declaration type' type = true ↔
      DeclType.same .declaration type type' = true :=
    ⟨DeclType.same_symm .declaration type' type, DeclType.same_symm .declaration type type'⟩
  simp only [DeclType.sameThrows, DeclType.allAmong_eq_all, DeclType.anySame_eq_any,
    Bool.and_eq_true, List.all_eq_true, List.any_eq_true, turned]

/-! ## Three types in a row -/

mutual

/-- A type is the same as what a type that it is the same as is the same as. -/
theorem DeclType.same_trans (comparison : Comparison) (first second third : DeclType)
    (same : DeclType.same comparison first second = true)
    (same' : DeclType.same comparison second third = true) :
    DeclType.same comparison first third = true := by
  obtain ⟨base, qualifiers, derived⟩ := first
  obtain ⟨base', qualifiers', derived'⟩ := second
  obtain ⟨base'', qualifiers'', derived''⟩ := third
  simp only [DeclType.same, Bool.and_eq_true, Bool.or_eq_true, beq_iff_eq] at same same' ⊢
  obtain ⟨⟨bases, outermost⟩, nodes⟩ := same
  obtain ⟨⟨bases', outermost'⟩, nodes'⟩ := same'
  -- All three types are base types alone, or none is.
  rw [← Derived.isEmpty_eq_of_sameAll nodes] at outermost'
  refine ⟨⟨bases.trans bases', ?_⟩,
    Derived.sameAll_trans comparison _ derived derived' derived'' nodes nodes'⟩
  rcases outermost with ignored | quals
  · exact Or.inl ignored
  · exact outermost'.imp_right quals.trans
termination_by structural first

/-- Lists of nodes agree with what agrees with a list that they agree with. -/
theorem Derived.sameAll_trans (comparison : Comparison) (lenient : Bool)
    (first second third : List Derived)
    (same : Derived.sameAll comparison lenient first second = true)
    (same' : Derived.sameAll comparison lenient second third = true) :
    Derived.sameAll comparison lenient first third = true := by
  match first with
  | [] =>
    cases second with
    | nil => exact same'
    | cons => simp [Derived.sameAll] at same
  | node :: rest =>
    obtain ⟨node', rest', rfl, nodes, rests⟩ := Derived.sameAll_cons_iff.1 same
    obtain ⟨node'', rest'', rfl, nodes', rests'⟩ := Derived.sameAll_cons_iff.1 same'
    exact Derived.sameAll_cons_iff.2 ⟨node'', rest'', rfl,
      Derived.same_trans comparison lenient node node' node'' nodes nodes',
      Derived.sameAll_trans comparison false rest rest' rest'' rests rests'⟩
termination_by structural first

/-- A node agrees with what agrees with a node that it agrees with. -/
theorem Derived.same_trans (comparison : Comparison) (lenient : Bool)
    (first second third : Derived) (same : Derived.same comparison lenient first second = true)
    (same' : Derived.same comparison lenient second third = true) :
    Derived.same comparison lenient first third = true := by
  match first with
  | .pointer qualifiers =>
    obtain ⟨qualifiers', rfl, quals⟩ := Derived.same_pointer_iff.1 same
    obtain ⟨qualifiers'', rfl, quals'⟩ := Derived.same_pointer_iff.1 same'
    refine Derived.same_pointer_iff.2 ⟨qualifiers'', rfl, ?_⟩
    exact quals.elim Or.inl fun equal => quals'.imp_right equal.trans
  | .reference =>
    rw [Derived.same_reference_iff.1 same] at same'
    exact same'
  | .array size =>
    rw [Derived.same_array_iff.1 same] at same'
    exact same'
  | .memberPointer owner qualifiers =>
    obtain ⟨qualifiers', rfl, quals⟩ := Derived.same_memberPointer_iff.1 same
    obtain ⟨qualifiers'', rfl, quals'⟩ := Derived.same_memberPointer_iff.1 same'
    refine Derived.same_memberPointer_iff.2 ⟨qualifiers'', rfl, ?_⟩
    exact quals.elim Or.inl fun equal => quals'.imp_right equal.trans
  | .function signature =>
    obtain ⟨signature', rfl, signatures⟩ := Derived.same_function_iff.1 same
    obtain ⟨signature'', rfl, signatures'⟩ := Derived.same_function_iff.1 same'
    exact Derived.same_function_iff.2 ⟨signature'', rfl,
      Signature.same_trans comparison signature signature' signature'' signatures signatures'⟩
termination_by structural first

/-- A signature agrees with what agrees with a signature that it agrees with. -/
theorem Signature.same_trans (comparison : Comparison) (first second third : Signature)
    (same : Signature.same comparison first second = true)
    (same' : Signature.same comparison second third = true) :
    Signature.same comparison first third = true := by
  obtain ⟨params, qualifiers, throws, variadic, convention⟩ := first
  obtain ⟨params', qualifiers', throws', variadic', convention'⟩ := second
  obtain ⟨params'', qualifiers'', throws'', variadic'', convention''⟩ := third
  simp only [Signature.same, Bool.and_eq_true, Bool.or_eq_true, beq_iff_eq] at same same' ⊢
  obtain ⟨⟨⟨⟨parameters, variadics⟩, quals⟩, conventions⟩, exceptions⟩ := same
  obtain ⟨⟨⟨⟨parameters', variadics'⟩, quals'⟩, conventions'⟩, exceptions'⟩ := same'
  refine ⟨⟨⟨⟨DeclType.sameParams_trans params params' params'' parameters parameters',
    variadics.trans variadics'⟩, quals.trans quals'⟩, conventions.trans conventions'⟩, ?_⟩
  rcases exceptions with ignored | agree
  · exact Or.inl ignored
  · exact exceptions'.imp_right (DeclType.sameThrows_trans throws throws' throws'' agree)
termination_by structural first

/-- Parameter types agree with what agrees with parameter types that they agree with. -/
theorem DeclType.sameParams_trans (first second third : List DeclType)
    (same : DeclType.sameParams first second = true)
    (same' : DeclType.sameParams second third = true) :
    DeclType.sameParams first third = true := by
  match first, second, third with
  | [], [], [] => rfl
  | [], _ :: _, _ => simp [DeclType.sameParams] at same
  | _ :: _, [], _ => simp [DeclType.sameParams] at same
  | _, [], _ :: _ => simp [DeclType.sameParams] at same'
  | _, _ :: _, [] => simp [DeclType.sameParams] at same'
  | type :: rest, type' :: rest', type'' :: rest'' =>
    simp only [DeclType.sameParams, Bool.and_eq_true] at same same' ⊢
    exact ⟨DeclType.same_trans .parameter type type' type'' same.1 same'.1,
      DeclType.sameParams_trans rest rest' rest'' same.2 same'.2⟩
termination_by structural first

/-- Each type of a list is the same as what a type that it is the same as is the same as. -/
theorem DeclType.same_trans_of_mem (types : List DeclType) :
    ∀ type ∈ types, ∀ second third, DeclType.same .declaration type second = true →
      DeclType.same .declaration second third = true →
        DeclType.same .declaration type third = true := by
  match types with
  | [] => exact nofun
  | head :: rest =>
    exact List.forall_mem_cons.2 ⟨DeclType.same_trans .declaration head,
      DeclType.same_trans_of_mem rest⟩
termination_by structural types

/-- Exception specifications agree with what agrees with one that they agree with. -/
theorem DeclType.sameThrows_trans (first second third : Option (List DeclType))
    (same : DeclType.sameThrows first second = true)
    (same' : DeclType.sameThrows second third = true) :
    DeclType.sameThrows first third = true := by
  match first, second, third with
  | none, none, _ => exact same'
  | none, some _, _ => simp [DeclType.sameThrows] at same
  | some _, none, _ => simp [DeclType.sameThrows] at same
  | some _, some _, none => simp [DeclType.sameThrows] at same'
  | some types, some types', some types'' =>
    have chain := DeclType.same_trans_of_mem types
    obtain ⟨onwards, back⟩ := DeclType.sameThrows_iff.1 same
    obtain ⟨onwards', back'⟩ := DeclType.sameThrows_iff.1 same'
    refine DeclType.sameThrows_iff.2 ⟨fun type listed => ?_, fun type'' listed => ?_⟩
    · obtain ⟨type', listed', agrees⟩ := onwards type listed
      obtain ⟨type'', listed'', agrees'⟩ := onwards' type' listed'
      exact ⟨type'', listed'', chain type listed type' type'' agrees agrees'⟩
    · -- The way back starts at the last list, but only types of the first one are known to chain.
      obtain ⟨type', listed', agrees'⟩ := back' type'' listed
      obtain ⟨type, listed, agrees⟩ := back type' listed'
      refine ⟨type, listed, DeclType.same_symm .declaration _ _ ?_⟩
      exact chain type listed type' type'' (DeclType.same_symm .declaration _ _ agrees)
        (DeclType.same_symm .declaration _ _ agrees')
termination_by structural first

end

/-- Signatures that take the same parameters as one in between take the same ones. -/
theorem Signature.sameParameters_trans {first second third : Signature}
    (same : first.sameParameters second = true) (same' : second.sameParameters third = true) :
    first.sameParameters third = true := by
  unfold Signature.sameParameters at same same' ⊢
  rw [Bool.and_eq_true, beq_iff_eq] at same same' ⊢
  exact ⟨DeclType.sameParams_trans _ _ _ same.1 same'.1, same.2.trans same'.2⟩

/-- Signatures that stand for the same overload as one in between stand for the same one. -/
theorem Signature.sameOverload_trans {first second third : Signature}
    (same : first.sameOverload second = true) (same' : second.sameOverload third = true) :
    first.sameOverload third = true := by
  unfold Signature.sameOverload at same same' ⊢
  rw [Bool.and_eq_true, beq_iff_eq] at same same' ⊢
  exact ⟨Signature.sameParameters_trans same.1 same'.1, same.2.trans same'.2⟩

/-! ## What counts for a parameter -/

/-- A node without its own qualifiers. -/
def Derived.unqualified : Derived → Derived
  | .pointer _ => .pointer {}
  | .memberPointer owner _ => .memberPointer owner {}
  | node => node

/-- A node without an exception specification of its own. -/
def Derived.withoutThrows : Derived → Derived
  | .function signature => .function { signature with throws := none }
  | node => node

/-- A type without what does not count for a parameter: the qualifiers of its outermost part, which
is the base type or a pointer, and the exception specifications of its own function nodes. -/
def DeclType.asParameter (type : DeclType) : DeclType :=
  match type.derived with
  | [] => { base := type.base }
  | node :: rest =>
    { type with derived := node.unqualified.withoutThrows :: rest.map Derived.withoutThrows }

/-- Comparing nodes whose qualifiers do not count comes to comparing them without these. -/
theorem Derived.same_lenient_eq (comparison : Comparison) (node node' : Derived) :
    Derived.same comparison true node node' =
      Derived.same comparison false node.unqualified node'.unqualified := by
  cases node <;> cases node' <;> simp [Derived.same, Derived.unqualified]

/-- Comparing signatures of parameter types comes to comparing signatures of declared types without
exception specifications. -/
theorem Signature.same_parameter_eq (signature signature' : Signature) :
    Signature.same .parameter signature signature' =
      Signature.same .declaration { signature with throws := none }
        { signature' with throws := none } := by
  cases signature
  cases signature'
  simp [Signature.same, DeclType.sameThrows]

/-- Comparing nodes of parameter types comes to comparing nodes of declared types without exception
specifications. -/
theorem Derived.same_parameter_eq (lenient : Bool) (node node' : Derived) :
    Derived.same .parameter lenient node node' =
      Derived.same .declaration lenient node.withoutThrows node'.withoutThrows := by
  cases node <;> cases node' <;>
    simp [Derived.same, Derived.withoutThrows, Signature.same_parameter_eq]

/-- Comparing lists of nodes of parameter types comes to comparing nodes of declared types without
exception specifications one by one. -/
theorem Derived.sameAll_parameter_eq (nodes nodes' : List Derived) :
    Derived.sameAll .parameter false nodes nodes' =
      Derived.sameAll .declaration false (nodes.map Derived.withoutThrows)
        (nodes'.map Derived.withoutThrows) := by
  induction nodes generalizing nodes' with
  | nil => cases nodes' <;> rfl
  | cons node rest ih =>
      cases nodes' with
      | nil => rfl
      | cons node' rest' =>
          simp only [Derived.sameAll, List.map_cons, ih, Derived.same_parameter_eq]

/-- Comparing declared types goes through all of their parts. -/
theorem DeclType.same_declaration_mk (base base' : BaseType) (qualifiers qualifiers' : Qualifiers)
    (derived derived' : List Derived) :
    DeclType.same .declaration ⟨base, qualifiers, derived⟩ ⟨base', qualifiers', derived'⟩ =
      (base == base' && qualifiers == qualifiers' &&
        Derived.sameAll .declaration false derived derived') := rfl

/-- Comparing parameter types comes to comparing declared types without what does not count for a
parameter. -/
theorem DeclType.same_parameter_eq (type type' : DeclType) :
    DeclType.same .parameter type type' =
      DeclType.same .declaration type.asParameter type'.asParameter := by
  obtain ⟨base, qualifiers, derived⟩ := type
  obtain ⟨base', qualifiers', derived'⟩ := type'
  cases derived with
  | nil => cases derived' <;> simp [DeclType.same, DeclType.asParameter, Derived.sameAll]
  | cons node rest =>
      cases derived' with
      | nil => simp [DeclType.same, DeclType.asParameter, Derived.sameAll]
      | cons node' rest' =>
          -- There is an outermost node, so the qualifiers of the base types count.
          have outermost : Derived.same .parameter true node node' =
              Derived.same .declaration false node.unqualified.withoutThrows
                node'.unqualified.withoutThrows := by
            rw [Derived.same_lenient_eq, Derived.same_parameter_eq]
          simp only [DeclType.asParameter, DeclType.same_declaration_mk]
          simp [DeclType.same, Derived.sameAll, outermost, Derived.sameAll_parameter_eq]

/-- Signatures that agree as part of declared types agree as part of parameter types. -/
theorem Signature.same_parameter_of_declaration {signature signature' : Signature}
    (same : Signature.same .declaration signature signature' = true) :
    Signature.same .parameter signature signature' = true := by
  cases signature
  cases signature'
  simp only [Signature.same, Bool.and_eq_true, Bool.or_eq_true] at same ⊢
  exact ⟨same.1, Or.inl rfl⟩

/-- Nodes that agree as part of declared types agree as part of parameter types. -/
theorem Derived.same_parameter_of_declaration {lenient : Bool} {node node' : Derived}
    (same : Derived.same .declaration false node node' = true) :
    Derived.same .parameter lenient node node' = true := by
  cases node with
  | pointer qualifiers =>
      obtain ⟨qualifiers', rfl, quals⟩ := Derived.same_pointer_iff.1 same
      exact Derived.same_pointer_iff.2 ⟨qualifiers', rfl, Or.inr (by simpa using quals)⟩
  | reference => exact Derived.same_reference_iff.2 (Derived.same_reference_iff.1 same)
  | array size => exact Derived.same_array_iff.2 (Derived.same_array_iff.1 same)
  | memberPointer owner qualifiers =>
      obtain ⟨qualifiers', rfl, quals⟩ := Derived.same_memberPointer_iff.1 same
      exact Derived.same_memberPointer_iff.2 ⟨qualifiers', rfl, Or.inr (by simpa using quals)⟩
  | function signature =>
      obtain ⟨signature', rfl, signatures⟩ := Derived.same_function_iff.1 same
      exact Derived.same_function_iff.2
        ⟨signature', rfl, Signature.same_parameter_of_declaration signatures⟩

/-- Lists of nodes that agree as those of declared types agree as those of parameter types. -/
theorem Derived.sameAll_parameter_of_declaration {lenient : Bool} {nodes nodes' : List Derived}
    (same : Derived.sameAll .declaration false nodes nodes' = true) :
    Derived.sameAll .parameter lenient nodes nodes' = true := by
  induction nodes generalizing lenient nodes' with
  | nil => cases nodes' <;> exact same
  | cons node rest ih =>
      obtain ⟨node', rest', rfl, agrees, agree⟩ := Derived.sameAll_cons_iff.1 same
      exact Derived.sameAll_cons_iff.2
        ⟨node', rest', rfl, Derived.same_parameter_of_declaration agrees, ih agree⟩

/-- Types that are the same as declared types are the same as parameter types. -/
theorem DeclType.same_parameter_of_declaration {type type' : DeclType}
    (same : DeclType.same .declaration type type' = true) :
    DeclType.same .parameter type type' = true := by
  obtain ⟨base, qualifiers, derived⟩ := type
  obtain ⟨base', qualifiers', derived'⟩ := type'
  rw [DeclType.same_declaration_mk] at same
  simp only [DeclType.same, Bool.and_eq_true, Bool.or_eq_true] at same ⊢
  exact ⟨⟨same.1.1, Or.inr same.1.2⟩, Derived.sameAll_parameter_of_declaration same.2⟩

/-- Comparing types is an equivalence, for declared types as well as for parameter types, and so is
asking whether signatures take the same parameters. What is the same as a declared type is the same
as a parameter type; and two types are the same as parameter types exactly when they are the same as
declared types without what does not count for a parameter. -/
theorem sameType_equivalence :
    (∀ comparison, Equivalence fun type type' => DeclType.same comparison type type' = true) ∧
      (Equivalence fun signature signature' : Signature =>
        signature.sameParameters signature' = true) ∧
      (∀ type type', DeclType.same .declaration type type' = true →
        DeclType.same .parameter type type' = true) ∧
      ∀ type type', DeclType.same .parameter type type' =
        DeclType.same .declaration type.asParameter type'.asParameter := by
  refine ⟨fun comparison => ⟨?_, ?_, ?_⟩, ⟨?_, ?_, ?_⟩, ?_, ?_⟩
  · exact DeclType.same_self comparison
  · exact fun {type type'} => DeclType.same_symm comparison type type'
  · exact fun {type type' type''} => DeclType.same_trans comparison type type' type''
  · exact Signature.sameParameters_self
  · exact fun same => Signature.sameParameters_comm _ _ ▸ same
  · exact Signature.sameParameters_trans
  · exact fun type type' => DeclType.same_parameter_of_declaration
  · exact DeclType.same_parameter_eq

end ScopeResolution
