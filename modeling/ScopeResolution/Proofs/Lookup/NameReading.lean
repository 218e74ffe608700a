import ScopeResolution.Lookup.QualifiedName
import ScopeResolution.Proofs.Store.NamePool
import ScopeResolution.Proofs.Text.Spelling

/-! # Reading qualified names

A text is divided at its double colons from the left to the right (`Splits`), and this can be done in
one way only (`Splits.unique`). Reading goes from piece to piece and counts the bytes on the way, so
that the place of each name is told by all that stands in front of it (`readPieces_tells`). Names
without colons that are joined by double colons are the pieces again (`splits_intercalate`), so what
was written is read back. -/

namespace ScopeResolution.QualifiedName

open Text

/-! ## Texts and their pieces -/

/-- A double colon. -/
def colons : List Char := [':', ':']

/-- What a text starts with when its names start at the global table. -/
def opening (isGlobal : Bool) : List Char := if isGlobal then colons else []

/-- The body of a text is what stands after a double colon at its start, or else all of it. -/
structure HasBody (text : List Char) (isGlobal : Bool) (body : List Char) : Prop where
  /-- The body follows the opening. -/
  text_eq : text = opening isGlobal ++ body
  /-- A double colon at the start is no part of the body. -/
  bare : isGlobal = false → ¬ colons <+: text

/-- The pieces of a text between double colons, each of which is the leftmost one after the one before
it. -/
inductive Splits : List Char → List (List Char) → Prop where
  /-- There is no double colon any more. -/
  | last {text : List Char} (none : ¬ colons <:+: text) : Splits text [text]
  /-- The first piece ends at the leftmost double colon. -/
  | more {text piece rest : List Char} {pieces : List (List Char)}
      (divided : text = piece ++ colons ++ rest)
      (leftmost : ∀ front back, text = front ++ colons ++ back → piece.length ≤ front.length)
      (further : Splits rest pieces) : Splits text (piece :: pieces)

variable {text body : List Char} {isGlobal : Bool} {split : List (List Char)}

/-- A text has one body. -/
theorem HasBody.unique {otherGlobal : Bool} {otherBody : List Char}
    (first : HasBody text isGlobal body) (second : HasBody text otherGlobal otherBody) :
    isGlobal = otherGlobal ∧ body = otherBody := by
  have starts {body : List Char} (eq : text = opening true ++ body) : colons <+: text :=
    ⟨body, eq.symm⟩
  have same : isGlobal = otherGlobal := by
    cases isGlobal <;> cases otherGlobal
    · rfl
    · exact absurd (starts second.text_eq) (first.bare rfl)
    · exact absurd (starts first.text_eq) (second.bare rfl)
    · rfl
  subst same
  exact ⟨rfl, List.append_cancel_left (first.text_eq.symm.trans second.text_eq)⟩

/-- The body is what is left when the opening is taken away. -/
theorem hasBody_splitGlobal (text : List Char) :
    HasBody text (splitGlobal text).1 (splitGlobal text).2 := by
  fun_cases splitGlobal text with
  | case1 rest => exact ⟨rfl, fun whole => nomatch whole⟩
  | case2 text bare =>
      refine ⟨rfl, fun _ starts => ?_⟩
      obtain ⟨rest, eq⟩ := starts
      exact bare rest eq.symm

namespace Splits

/-- There is a piece at least. -/
theorem ne_nil (splits : Splits text split) : split ≠ [] := by
  cases splits <;> exact List.cons_ne_nil _ _

/-- The pieces with double colons between them are the text. -/
theorem joined (splits : Splits text split) : colons.intercalate split = text := by
  induction splits with
  | last => exact List.intercalate_singleton
  | @more text piece rest pieces divided _ further ih =>
      obtain ⟨next, others, rfl⟩ := List.exists_cons_of_ne_nil further.ne_nil
      rw [List.intercalate_cons_cons, ih, divided]

/-- A text with a double colon at its start has an empty piece. -/
theorem nil_mem_of_starts (splits : Splits text split) (starts : colons <+: text) : [] ∈ split := by
  obtain ⟨back, eq⟩ := starts
  cases splits with
  | last none => exact absurd ⟨[], back, eq⟩ none
  | more _ leftmost _ =>
      have short := leftmost [] back eq.symm
      rw [List.eq_nil_of_length_eq_zero (Nat.le_zero.1 short)]
      exact List.mem_cons_self

/-- A text is divided in one way only. -/
theorem unique {other : List (List Char)} (first : Splits text split)
    (second : Splits text other) : split = other := by
  induction first generalizing other with
  | last none =>
      cases second with
      | last => rfl
      | more divided => exact absurd ⟨_, _, divided.symm⟩ none
  | @more text piece rest pieces divided leftmost _ ih =>
      cases second with
      | last none => exact absurd ⟨_, _, divided.symm⟩ none
      | @more _ otherPiece otherRest otherPieces otherDivided otherLeftmost otherFurther =>
          have sameLength : piece.length = otherPiece.length :=
            Nat.le_antisymm (leftmost _ _ otherDivided) (otherLeftmost _ _ divided)
          have same := divided.symm.trans otherDivided
          rw [List.append_assoc, List.append_assoc] at same
          obtain ⟨samePiece, sameRest⟩ := List.append_inj same sameLength
          rw [samePiece, ih (List.append_cancel_left sameRest ▸ otherFurther)]

/-- A character that starts no double colon joins the first piece. -/
theorem cons {char : Char} {piece : List Char} (bare : ¬ colons <+: char :: text)
    (splits : Splits text (piece :: split)) : Splits (char :: text) ((char :: piece) :: split) := by
  cases splits with
  | last none =>
      refine .last fun inside => ?_
      rcases List.infix_cons_iff.1 inside with starts | further
      · exact bare starts
      · exact none further
  | more divided leftmost further =>
      refine .more (by rw [divided]; rfl) (fun front back eq => ?_) further
      cases front with
      | nil => exact absurd ⟨back, eq.symm⟩ bare
      | cons head front =>
          have inText := (List.cons.inj eq).2
          exact Nat.succ_le_succ (leftmost front back inText)

end Splits

/-- The pieces of a text are what it is divided into. -/
theorem splits_pieces (text : List Char) : Splits text (pieces text) := by
  fun_induction pieces text with
  | case1 => exact .last (by decide)
  | case2 rest ih => exact .more rfl (fun _ _ _ => Nat.zero_le _) ih
  | case3 char rest _ nothing => exact absurd nothing (pieces_ne_nil rest)
  | case4 char rest bare piece others eq ih =>
      rw [eq] at ih
      refine ih.cons fun starts => ?_
      obtain ⟨back, same⟩ := starts
      obtain ⟨rfl, eq⟩ := List.cons.inj same
      exact bare back rfl eq.symm

/-- Texts without colons are the pieces of what they give with double colons between them. -/
theorem splits_intercalate (nonempty : split ≠ [])
    (bare : ∀ piece ∈ split, ':' ∉ piece) : Splits (colons.intercalate split) split := by
  induction split with
  | nil => exact absurd rfl nonempty
  | cons piece others ih =>
      have noColon := bare piece List.mem_cons_self
      cases others with
      | nil =>
          rw [List.intercalate_singleton]
          exact .last fun inside => noColon (inside.subset List.mem_cons_self)
      | cons next rest =>
          have further := ih (List.cons_ne_nil _ _) fun other among =>
            bare other (List.mem_cons_of_mem _ among)
          rw [List.intercalate_cons_cons]
          refine .more rfl (fun front back eq => ?_) further
          -- A double colon further to the left would put a colon into the piece.
          by_contra shorter
          have whole : piece <+: front ++ colons ++ back := ⟨_, (List.append_assoc ..).symm.trans eq⟩
          have start : front ++ [':'] <+: front ++ colons ++ back :=
            ⟨':' :: back, by simp [colons]⟩
          have inPiece : front ++ [':'] <+: piece :=
            List.prefix_of_prefix_length_le start whole (by simp; omega)
          exact noColon (inPiece.subset (by simp))

/-! ## From piece to piece -/

/-- The bytes of a text in a file, where another text stands in front of it from a location on. -/
def locationAfter (start : Location) (front text : List Char) : Location :=
  let first := start.extent.start + (String.ofList front).utf8ByteSize
  ⟨start.file, ⟨first, first + (String.ofList text).utf8ByteSize⟩⟩

/-- What segments tell of pieces of a text that starts at a location: segment by segment, the name
that the piece spells, and the bytes of the name. The text in front of the first piece is given. -/
inductive Tells (pool : NamePool) (start : Location) (whole : List Char) :
    List Char → List (List Char) → List Mention → Prop where
  /-- There are no pieces any more. -/
  | none {front : List Char} : Tells pool start whole front [] []
  /-- A piece spells the name of the segment. -/
  | next {front back : List Char} {spelling : Spelling} {segment : Mention}
      {pieces : List (List Char)} {segments : List Mention}
      (inside : whole = front ++ spelling.chars ++ back)
      (named : pool.find? (String.ofList spelling.name) = some segment.name)
      (located : segment.location = locationAfter start (front ++ spelling.lead) spelling.name)
      (further : Tells pool start whole (front ++ spelling.chars ++ colons) pieces segments) :
      Tells pool start whole front (spelling.chars :: pieces) (segment :: segments)

namespace Tells

variable {pool : NamePool} {start : Location} {whole front : List Char} {segments : List Mention}

/-- There is one segment for each piece. -/
theorem length_eq (tells : Tells pool start whole front split segments) :
    segments.length = split.length := by
  induction tells with
  | none => rfl
  | next _ _ _ _ ih => simp [ih]

/-- The texts of the names are the pieces without the blanks around them. -/
theorem texts_eq (tells : Tells pool start whole front split segments) :
    segments.map (fun segment => pool.text segment.name) =
      split.map fun piece => String.ofList (trim piece) := by
  induction tells with
  | none => rfl
  | next _ named _ _ ih =>
      rw [List.map_cons, List.map_cons, ih, NamePool.text_of_find? named, Spelling.trim_chars]

end Tells

@[simp] theorem byteCount_append (first second : List Char) :
    byteCount (first ++ second) = byteCount first + byteCount second := by
  induction first with
  | nil => simp [byteCount]
  | cons char rest ih =>
      simp only [byteCount, List.cons_append, List.map_cons, List.foldr_cons] at ih ⊢
      omega

/-- Bytes are counted as in the UTF-8 form of a string. -/
theorem utf8ByteSize_ofList (text : List Char) :
    (String.ofList text).utf8ByteSize = byteCount text := by
  induction text with
  | nil => rfl
  | cons char rest ih =>
      rw [← List.singleton_append, String.ofList_append, String.utf8ByteSize_append, ih,
        ← String.singleton_eq_ofList, String.utf8ByteSize_singleton]
      rfl

/-- A name is located behind the blanks in front of it. -/
theorem nameLocation_chars (start : Location) (front : List Char) (spelling : Spelling) :
    nameLocation start.file (start.extent.start + byteCount front) spelling.chars =
      locationAfter start (front ++ spelling.lead) spelling.name := by
  simp only [nameLocation, locationAfter, spelling.trimStart_chars, spelling.trimEnd_name_append,
    utf8ByteSize_ofList]
  simp only [Spelling.chars, byteCount_append]
  simp only [Location.mk.injEq, Extent.mk.injEq, true_and]
  omega

/-- Pieces cannot be read when one of them has no name in it. -/
theorem readPieces_eq_none_iff (file offset : Nat) (split : List (List Char)) (pool : NamePool) :
    (readPieces file offset split pool).1 = none ↔
      ∃ piece ∈ split, ∀ char ∈ piece, isBlank char = true := by
  induction split generalizing offset pool with
  | nil => simp [readPieces]
  | cons piece others ih =>
      simp only [List.mem_cons, exists_eq_or_imp, ← trim_eq_nil_iff]
      cases trimmed : trim piece with
      | nil => simp [readPieces, trimmed]
      | cons char rest => simp [readPieces, trimmed, ih, trim_eq_nil_iff]

/-- A piece that spells a name is read by that name, which joins the pool before the others do. -/
theorem readPieces_cons {start : Location} {front : List Char} {spelling : Spelling}
    {others : List (List Char)} {pool after : NamePool} {segments : List Mention}
    (further : readPieces start.file
      (start.extent.start + byteCount (front ++ spelling.chars ++ colons)) others
      (pool.intern (String.ofList spelling.name)).2 = (some segments, after)) :
    readPieces start.file (start.extent.start + byteCount front) (spelling.chars :: others) pool =
      (some (⟨(pool.intern (String.ofList spelling.name)).1,
        locationAfter start (front ++ spelling.lead) spelling.name⟩ :: segments), after) := by
  obtain ⟨char, rest, named⟩ := List.exists_cons_of_ne_nil spelling.nonempty
  have two : byteCount colons = 2 := by decide
  have offset : start.extent.start + byteCount (front ++ spelling.chars ++ colons) =
      start.extent.start + byteCount front + byteCount spelling.chars + 2 := by
    simp only [byteCount_append, two]
    omega
  rw [offset, named] at further
  simp only [readPieces, spelling.trim_chars, nameLocation_chars, named, further, Option.map_some]

/-- A piece stands in front of a double colon and the other pieces, if there are any. -/
theorem cut_of_divided {whole front piece : List Char} {others : List (List Char)}
    (divided : whole = front ++ colons.intercalate (piece :: others)) :
    (∃ back, whole = front ++ piece ++ back) ∧
      (others ≠ [] → whole = front ++ piece ++ colons ++ colons.intercalate others) := by
  cases others with
  | nil => exact ⟨⟨[], by simpa using divided⟩, fun none => absurd rfl none⟩
  | cons next rest =>
      rw [List.intercalate_cons_cons] at divided
      exact ⟨⟨colons ++ colons.intercalate (next :: rest), by simp [divided]⟩,
        fun _ => by simp [divided]⟩

/-- Pieces that all have names in them are read by these names, each with the place that all that
stands in front of it gives. -/
theorem readPieces_tells (start : Location) (whole : List Char) {front : List Char}
    {pool : NamePool} (named : ∀ piece ∈ split, ∃ char ∈ piece, isBlank char = false)
    (divided : split ≠ [] → whole = front ++ colons.intercalate split) :
    ∃ segments after, readPieces start.file (start.extent.start + byteCount front) split pool =
        (some segments, after) ∧
      pool.Extends after ∧ Tells after start whole front split segments := by
  induction split generalizing front pool with
  | nil => exact ⟨[], pool, rfl, .refl pool, .none⟩
  | cons piece others ih =>
      obtain ⟨spelling, rfl⟩ := exists_spelling (named piece List.mem_cons_self)
      obtain ⟨⟨back, inside⟩, dividedOthers⟩ := cut_of_divided (divided (List.cons_ne_nil _ _))
      have namedOthers : ∀ other ∈ others, ∃ char ∈ other, isBlank char = false :=
        fun other among => named other (List.mem_cons_of_mem _ among)
      obtain ⟨segments, after, further, keeps, tells⟩ :=
        @ih _ (pool.intern (String.ofList spelling.name)).2 namedOthers dividedOthers
      -- The name is given before the other pieces are read, and it is kept.
      have known := keeps _ _ (NamePool.find?_intern pool (String.ofList spelling.name))
      exact ⟨_, after, readPieces_cons further, (NamePool.intern_extends pool _).trans keeps,
        .next inside known rfl tells⟩

/-- A text is read piece by piece, from the first byte of its body on. -/
theorem parse_eq {text : String} (start : Location) (pool : NamePool)
    (hasBody : HasBody text.toList isGlobal body) (splits : Splits body split) :
    parse text start pool =
      let (segments, after) := readPieces start.file
        (start.extent.start + byteCount (opening isGlobal)) split pool
      (segments.map (⟨isGlobal, ·⟩), after) := by
  have opened : byteCount (opening isGlobal) = if isGlobal then 2 else 0 := by
    cases isGlobal <;> rfl
  obtain ⟨sameGlobal, sameBody⟩ := hasBody.unique (hasBody_splitGlobal text.toList)
  have divided : splitGlobal text.toList = (isGlobal, body) := by rw [sameGlobal, sameBody]
  rw [splits.unique (splits_pieces body), opened]
  simp only [parse, divided]

/-- A text whose pieces all have names in them is read, and its segments tell what they spell. -/
theorem parse_tells {text : String} (start : Location) (pool : NamePool)
    (hasBody : HasBody text.toList isGlobal body) (splits : Splits body split)
    (named : ∀ piece ∈ split, ∃ char ∈ piece, isBlank char = false) :
    ∃ segments, (parse text start pool).1 = some ⟨isGlobal, segments⟩ ∧
      Tells (parse text start pool).2 start text.toList (opening isGlobal) split segments := by
  obtain ⟨segments, after, read, -, tells⟩ := @readPieces_tells split start text.toList
    (opening isGlobal) pool named fun _ => by rw [splits.joined, hasBody.text_eq]
  rw [parse_eq start pool hasBody splits, read]
  exact ⟨segments, rfl, tells⟩

/-- A text cannot be read when one of its pieces has no name in it. -/
theorem parse_eq_none_iff {text : String} (start : Location) (pool : NamePool)
    (hasBody : HasBody text.toList isGlobal body) (splits : Splits body split) :
    (parse text start pool).1 = none ↔ ∃ piece ∈ split, ∀ char ∈ piece, isBlank char = true := by
  simp only [parse_eq start pool hasBody splits, Option.map_eq_none_iff]
  exact readPieces_eq_none_iff ..

/-- Names without colons, with blanks around them and double colons between two of them, are the
pieces of what they are written as. -/
theorem body_of_written {text : String} {spellings : List Spelling} (nonempty : spellings ≠ [])
    (bare : ∀ spelling ∈ spellings, ':' ∉ spelling.name)
    (written : text = String.ofList (opening isGlobal ++
      colons.intercalate (spellings.map Spelling.chars))) :
    ∃ body, HasBody text.toList isGlobal body ∧ Splits body (spellings.map Spelling.chars) := by
  have noColon : ∀ piece ∈ spellings.map Spelling.chars, ':' ∉ piece := by
    intro piece among inPiece
    obtain ⟨spelling, listed, rfl⟩ := List.mem_map.1 among
    exact bare spelling listed (spelling.mem_name_of_mem_chars inPiece (by decide))
  have splits := splits_intercalate (by simpa using nonempty) noColon
  have text_eq := congrArg String.toList written
  rw [String.toList_ofList] at text_eq
  refine ⟨_, ⟨text_eq, fun whole starts => ?_⟩, splits⟩
  -- A double colon at the start would leave nothing for the first name.
  rw [text_eq, whole] at starts
  obtain ⟨spelling, -, nothing⟩ := List.mem_map.1 (splits.nil_mem_of_starts starts)
  obtain ⟨char, among, -⟩ := spelling.exists_bare
  rw [nothing] at among
  cases among

/-- A text cannot be read when a piece of its body is empty or has only blanks in it. Otherwise there
is one segment for each piece, in order, with the name that the piece spells between its blanks and
the bytes that this name has in the text; and the names start at the global table when the text starts
with a double colon. Names without colons, with any blanks around them and double colons between two
of them, after a double colon or none, are read back from what they are written as. -/
theorem qualified_names_are_read (text : String) (start : Location) (pool : NamePool) :
    let answer := (parse text start pool).1
    let after := (parse text start pool).2
    (∃ isGlobal body split, HasBody text.toList isGlobal body ∧ Splits body split ∧
      (answer = none ↔ ∃ piece ∈ split, ∀ char ∈ piece, isBlank char = true) ∧
      ∀ name, answer = some name → name.isGlobal = isGlobal ∧
        name.segments.length = split.length ∧
        Tells after start text.toList (opening isGlobal) split name.segments) ∧
    ∀ isGlobal (spellings : List Spelling), spellings ≠ [] →
      (∀ spelling ∈ spellings, ':' ∉ spelling.name) →
      text = String.ofList (opening isGlobal ++
        colons.intercalate (spellings.map Spelling.chars)) →
      ∃ name, answer = some name ∧ name.isGlobal = isGlobal ∧
        name.segments.map (fun segment => after.text segment.name) =
          spellings.map fun spelling => String.ofList spelling.name := by
  intro answer after
  constructor
  · have hasBody := hasBody_splitGlobal text.toList
    have splits := splits_pieces (splitGlobal text.toList).2
    have rejects := parse_eq_none_iff start pool hasBody splits
    refine ⟨_, _, _, hasBody, splits, rejects, fun name read => ?_⟩
    have accepted : answer ≠ none := by simp [read]
    have named : ∀ piece ∈ pieces (splitGlobal text.toList).2,
        ∃ char ∈ piece, isBlank char = false := by
      simpa using mt rejects.2 accepted
    obtain ⟨segments, answered, tells⟩ := parse_tells start pool hasBody splits named
    obtain rfl := Option.some.inj (answered.symm.trans read)
    exact ⟨rfl, tells.length_eq, tells⟩
  · intro isGlobal spellings nonempty bare written
    obtain ⟨body, hasBody, splits⟩ := body_of_written nonempty bare written
    have named : ∀ piece ∈ spellings.map Spelling.chars, ∃ char ∈ piece, isBlank char = false := by
      intro piece among
      obtain ⟨spelling, -, rfl⟩ := List.mem_map.1 among
      exact spelling.exists_bare
    obtain ⟨segments, answered, tells⟩ := parse_tells start pool hasBody splits named
    refine ⟨_, answered, rfl, ?_⟩
    rw [tells.texts_eq, List.map_map]
    exact List.map_congr_left fun spelling _ => by simp [spelling.trim_chars]

/-- Two names, the first of which takes two bytes and has a wide blank in front of it and a tab
after it. -/
def twoSpellings : List Spelling :=
  [⟨['\u3000'], ['é'], ['\t'], List.forall_mem_singleton.2 rfl, List.forall_mem_singleton.2 rfl,
      List.cons_ne_nil _ _, rfl, rfl⟩,
    ⟨[], ['b'], [' '], List.forall_mem_nil _, List.forall_mem_singleton.2 rfl,
      List.cons_ne_nil _ _, rfl, rfl⟩]

/-- They are read back when a double colon stands in front of them. -/
theorem twoSpellings_are_read :
    let text := String.ofList (opening true ++
      colons.intercalate (twoSpellings.map Spelling.chars))
    twoSpellings ≠ [] ∧ (∀ spelling ∈ twoSpellings, ':' ∉ spelling.name) ∧
      ∃ name, (parse text {} {}).1 = some name ∧ name.isGlobal = true ∧
        name.segments.map (fun segment => (parse text {} {}).2.text segment.name) = ["é", "b"] := by
  intro text
  have nonempty : twoSpellings ≠ [] := List.cons_ne_nil _ _
  have bare : ∀ spelling ∈ twoSpellings, ':' ∉ spelling.name := by decide
  obtain ⟨name, answered, isGlobal, texts⟩ :=
    (qualified_names_are_read text {} {}).2 true twoSpellings nonempty bare rfl
  exact ⟨nonempty, bare, name, answered, isGlobal, texts⟩

example : (parse "::\u3000é\t:: b" {} {}).1.map (fun name => name.segments.map (·.location.extent)) =
    some [⟨5, 7⟩, ⟨11, 12⟩] := by
  decide +kernel

end ScopeResolution.QualifiedName
