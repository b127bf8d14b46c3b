import Mathlib
import UdsCatalog.Files.Tree

/-! Laws of paths: the parts of a joined path, and names that can stand at the end of a path. -/

namespace UdsCatalog.Files

/-! ### Parts of paths -/

/-- There is always a part. -/
theorem splitAt_ne_nil {α : Type} [BEq α] (mark : α) (chars : List α) : splitAt mark chars ≠ [] := by
  -- Each character begins a part or is put in front of one.
  cases chars with
  | nil => simp [splitAt]
  | cons c rest =>
    rw [splitAt]
    split
    · simp
    · split <;> simp

/-- Behind a mark the parts begin anew. -/
theorem splitAt_append {α : Type} [BEq α] [LawfulBEq α] (mark : α) (front back : List α) :
    splitAt mark (front ++ mark :: back) = splitAt mark front ++ splitAt mark back := by
  -- The characters in front are cut one by one, and the mark ends the last of their parts.
  induction front with
  | nil => simp [splitAt]
  | cons c rest ih =>
    by_cases isMark : c = mark
    · simp [splitAt, isMark, ih]
    · -- The character goes to the first part of the rest, which is there on both sides.
      obtain ⟨first, others, parts⟩ := List.exists_cons_of_ne_nil (splitAt_ne_nil mark rest)
      simp [splitAt, isMark, ih, parts]

/-- Without a mark there is one part. -/
theorem splitAt_of_not_mem {α : Type} [BEq α] [LawfulBEq α] {mark : α} {chars : List α}
    (absent : mark ∉ chars) : splitAt mark chars = [chars] := by
  -- No character ends the part, so each one goes to the part of the rest.
  induction chars with
  | nil => rfl
  | cons c rest ih =>
    have apart : c ≠ mark := fun same => absent (by simp [same])
    have absent : mark ∉ rest := fun member => absent (List.mem_cons_of_mem c member)
    simp [splitAt, apart, ih absent]

namespace Path

/-- The parts of a joined path are those of the base, apart from an empty one at its end, and then those
of the part that was joined. -/
theorem parts_join (base : Path) {part : Path} (relative : part.isAbsolute = false) :
    ∃ front, (base.join part).parts = front ++ part.parts ∧
      (base.parts = front ∨ base.parts = front ++ [""]) := by
  have empty : (splitAt '/' ([] : List Char)).map String.ofList = [""] := rfl
  rw [join, if_neg (by simp [relative])]
  cases chars : base.text.toList.getLast? with
  | none =>
    -- Without a base the part stands alone.
    rw [List.getLast?_eq_none_iff] at chars
    exact ⟨[], rfl, .inr (by rw [parts, chars]; exact empty)⟩
  | some last =>
    obtain ⟨front, chars⟩ := List.getLast?_eq_some_iff.mp chars
    by_cases slash : last = '/'
    · -- The slash at the end of the base is the one between the two.
      subst slash
      refine ⟨(splitAt '/' front).map String.ofList, ?_, .inr ?_⟩
      · simp only [parts, beq_self_eq_true, if_true, String.toList_append, chars, List.append_assoc,
          List.singleton_append, splitAt_append, List.map_append]
      · rw [parts, chars, splitAt_append, List.map_append, empty]
    · refine ⟨base.parts, ?_, .inl rfl⟩
      have slash : (last == '/') = false := by simp [slash]
      have between : "/".toList = ['/'] := rfl
      simp only [parts, slash, Bool.false_eq_true, if_false, String.toList_append, between,
        List.append_assoc, List.singleton_append, splitAt_append, List.map_append]

/-- A joined path has no characters but those of both parts and the slash between them. -/
theorem mem_join {base part : Path} {c : Char} (member : c ∈ (base.join part).text.toList) :
    c ∈ base.text.toList ∨ c = '/' ∨ c ∈ part.text.toList := by
  -- An absolute part replaces the base, and otherwise at most one separator comes between them.
  have between : "/".toList = ['/'] := rfl
  unfold join at member
  split at member
  · exact .inr (.inr member)
  · split at member
    · exact .inr (.inr member)
    · split at member <;> simp only [String.toList_append, between, List.mem_append,
        List.mem_singleton] at member <;> tauto

/-- What is joined to a base stands at the end of the path. -/
theorem suffix_join (base part : Path) : part.text.toList <:+ (base.join part).text.toList := by
  -- It stands alone, or behind the base and perhaps a slash.
  unfold join
  split
  · exact List.suffix_refl _
  · split
    · exact List.suffix_refl _
    · dsimp only
      split <;> simp only [String.toList_append] <;> exact List.suffix_append _ _

/-- What is joined to a base leaves the path filled. -/
theorem join_ne_empty (base : Path) {part : Path} (filled : part.text ≠ "") :
    (base.join part).text ≠ "" := by
  intro empty
  have inside := suffix_join base part
  rw [empty] at inside
  exact filled (String.toList_injective (List.suffix_nil.mp inside))

/-- A path that is joined to a base begins as the base does. -/
theorem isAbsolute_join {base part : Path} (relative : part.isAbsolute = false)
    (named : base.text ≠ "") : (base.join part).isAbsolute = base.isAbsolute := by
  -- The first character of the base is the first one of the whole.
  have filled : base.text.toList ≠ [] := by simpa using named
  obtain ⟨first, rest, chars⟩ := List.exists_cons_of_ne_nil filled
  rw [join, if_neg (by simp [relative])]
  cases last : base.text.toList.getLast? with
  | none => rw [chars] at last; simp at last
  | some c =>
    simp only [isAbsolute]
    split <;> simp [String.toList_append, chars]

/-- Without a slash a path is its only part. -/
theorem parts_eq_of_noSlash {name : String} (noSlash : '/' ∉ name.toList) :
    (⟨name⟩ : Path).parts = [name] := by
  rw [parts, splitAt_of_not_mem noSlash]
  simp

/-- Without a slash a path is none from the root. -/
theorem isAbsolute_eq_of_noSlash {name : String} (noSlash : '/' ∉ name.toList) :
    (⟨name⟩ : Path).isAbsolute = false := by
  -- A path from the root begins with a slash.
  cases chars : name.toList with
  | nil => simp [isAbsolute, chars]
  | cons c rest =>
    have apart : c ≠ '/' := fun same => noSlash (by simp [chars, same])
    simp [isAbsolute, chars, apart]

/-- What a text without a slash is joined to ends in the text. -/
theorem getLast?_join_of_noSlash {name : String} (noSlash : '/' ∉ name.toList) (directory : Path) :
    (directory.join ⟨name⟩).parts.getLast? = some name := by
  obtain ⟨front, parts, -⟩ := parts_join directory (isAbsolute_eq_of_noSlash noSlash)
  rw [parts, parts_eq_of_noSlash noSlash, List.getLast?_concat]

end Path

/-- A name that can stand at the end of a path. -/
structure IsName (name : String) : Prop where
  noSlash : '/' ∉ name.toList
  noZero : ∀ c ∈ name.toList, c.toNat ≠ 0
  notEmpty : name ≠ ""
  noDots : name ≠ "." ∧ name ≠ ".."
  short : name.utf8ByteSize ≤ Tree.longestName

/-- A name can stand at the end of a path when it passes these checks. -/
theorem isName_iff {name : String} :
    IsName name ↔ '/' ∉ name.toList ∧ (name.toList.any (·.toNat == 0)) = false ∧ name ≠ "" ∧
      (name ≠ "." ∧ name ≠ "..") ∧ name.utf8ByteSize ≤ Tree.longestName := by
  -- The check for zeros is computed, and all the others are fields of the structure.
  have noZero : (name.toList.any (·.toNat == 0)) = false ↔ ∀ c ∈ name.toList, c.toNat ≠ 0 := by simp
  rw [noZero]
  constructor
  · rintro ⟨noSlash, noZero, notEmpty, noDots, short⟩
    exact ⟨noSlash, noZero, notEmpty, noDots, short⟩
  · rintro ⟨noSlash, noZero, notEmpty, noDots, short⟩
    exact ⟨noSlash, noZero, notEmpty, noDots, short⟩

/-- Whether a name can stand at the end of a path can be decided. -/
instance (name : String) : Decidable (IsName name) := decidable_of_iff' _ isName_iff

/-- A name is its only part. -/
theorem IsName.parts_eq {name : String} (plain : IsName name) : (⟨name⟩ : Path).parts = [name] :=
  Path.parts_eq_of_noSlash plain.noSlash

/-- A name is no path from the root. -/
theorem IsName.isAbsolute_eq {name : String} (plain : IsName name) :
    (⟨name⟩ : Path).isAbsolute = false :=
  Path.isAbsolute_eq_of_noSlash plain.noSlash

/-- What a name is joined to ends in the name. -/
theorem IsName.getLast?_join {name : String} (plain : IsName name) (directory : Path) :
    (directory.join ⟨name⟩).parts.getLast? = some name :=
  Path.getLast?_join_of_noSlash plain.noSlash directory

/-- A path that ends in a name has it as its file name. -/
theorem IsName.fileName?_eq {name : String} (plain : IsName name) {path : Path}
    (ends : path.parts.getLast? = some name) : path.fileName? = some name := by
  rw [Path.parts, List.getLast?_map, Option.map_eq_some_iff] at ends
  obtain ⟨chars, last, rfl⟩ := ends
  obtain ⟨front, parts⟩ := List.getLast?_eq_some_iff.mp last
  have filled : chars ≠ [] := fun empty => plain.notEmpty (by rw [empty])
  have noDot : chars ≠ ['.'] := fun dot => plain.noDots.1 (by rw [dot])
  have noDots : chars ≠ ['.', '.'] := fun dots => plain.noDots.2 (by rw [dots])
  rw [Path.fileName?, lastName?, parts]
  -- The name may be the only part, or the last of those behind the first one.
  cases front with
  | nil => simp [filled, noDot, noDots]
  | cons first rest => simp [List.filter_cons, filled, noDot, noDots]

end UdsCatalog.Files
