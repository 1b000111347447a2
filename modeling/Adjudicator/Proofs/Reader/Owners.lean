import Adjudicator.Proofs.Reader.Placement
import Mathlib.Data.List.Pairwise

/-!
# Types around methods

A type is around a line when its declaration is above the line and the braces of its body have not
closed there. It is the innermost one when all others are around its declaration too. Main
statement: C#, TypeScript, JavaScript and Rust name the innermost type around a method as its owner.
Java names the type that is declared nearest above, so it names the innermost one where the nearest
type is still open, and a type that has ended where it is not. What declares a type, and by which
name, is up to the pattern of each reader, which looks at single lines and misreads some of them.
-/

namespace Adjudicator.Reader

open Text Code

variable {declares : List Char → Option (List Char)} {code : List (List Char)} {index start : Nat}
  {name : List Char}

/-! ## Types around a line -/

/-- Line `start` declares a type of this name, by a rule that reads single lines. -/
def DeclaredAt (declares : List Char → Option (List Char)) (code : List (List Char)) (start : Nat)
    (name : List Char) : Prop :=
  ∃ line, code[start]? = some line ∧ declares line = some name

/-- The type that line `start` declares is around line `index`. -/
structure Around (declares : List Char → Option (List Char)) (code : List (List Char))
    (index start : Nat) (name : List Char) : Prop where
  /-- The type is declared there. -/
  declared : DeclaredAt declares code start name
  /-- The line is below the declaration. -/
  above : start < index
  /-- The line is in the body of the type. -/
  inside : ∃ span, braceBody? code start 3 = some span ∧ index < span.last

/-- Of the types around a line, this one is declared inside all others. -/
structure Innermost (declares : List Char → Option (List Char)) (code : List (List Char))
    (index start : Nat) (name : List Char) : Prop
    extends Around declares code index start name where
  /-- Every other type around the line is around the declaration. -/
  within : ∀ start' name', Around declares code index start' name' → start' ≠ start →
    Around declares code start start' name'

/-- Of the types declared on a line or above it, this one is declared last. -/
structure Nearest (declares : List Char → Option (List Char)) (code : List (List Char))
    (index start : Nat) (name : List Char) : Prop where
  /-- The type is declared there. -/
  declared : DeclaredAt declares code start name
  /-- The declaration is not below the line. -/
  above : start ≤ index
  /-- No type is declared in between. -/
  last : ∀ start' name', DeclaredAt declares code start' name' → start' ≤ index → start' ≤ start

/-- A line declares one type at most. -/
theorem DeclaredAt.name_eq {name' : List Char} (h : DeclaredAt declares code start name)
    (h' : DeclaredAt declares code start name') : name = name' := by
  obtain ⟨line, hline, hname⟩ := h
  obtain ⟨line', hline', hname'⟩ := h'
  rw [hline] at hline'
  obtain rfl := Option.some.inj hline'
  exact Option.some.inj (hname.symm.trans hname')

/-- A line has one innermost type. -/
theorem Innermost.start_eq {start' : Nat} {name' : List Char}
    (h : Innermost declares code index start name)
    (h' : Innermost declares code index start' name') : start' = start := by
  by_contra hne
  have hbelow := (h.within _ _ h'.toAround hne).above
  have habove := (h'.within _ _ h.toAround (Ne.symm hne)).above
  omega

/-- One type is nearest. -/
theorem Nearest.start_eq {start' : Nat} {name' : List Char}
    (h : Nearest declares code index start name)
    (h' : Nearest declares code index start' name') : start' = start :=
  Nat.le_antisymm (h.last _ _ h'.declared h'.above) (h'.last _ _ h.declared h.above)

/-- The nearest type is the innermost one where it is still open. -/
theorem Nearest.innermost (h : Nearest declares code index start name)
    (haround : Around declares code index start name) :
    Innermost declares code index start name where
  toAround := haround
  within := by
    intro start' name' h' hne
    have hle := h.last start' name' h'.declared (Nat.le_of_lt h'.above)
    obtain ⟨span, hspan, hlast⟩ := h'.inside
    exact ⟨h'.declared, Nat.lt_of_le_of_ne hle hne, span, hspan, Nat.lt_trans haround.above hlast⟩

/-! ## Spans of types -/

/-- Spans and names of the types that the lines of a text declare. -/
def typesOf (declares : List Char → Option (List Char)) (code : List (List Char)) :
    List (Span × List Char) :=
  code.zipIdx.filterMap fun (line, i) =>
    (declares line).bind fun name => (braceBody? code i 3).map (·, name)

/-- The types of a text are those that are declared, with the bodies in braces behind the
declarations. -/
theorem mem_typesOf_iff {span : Span} : (span, name) ∈ typesOf declares code ↔
    ∃ start, DeclaredAt declares code start name ∧ braceBody? code start 3 = some span := by
  constructor
  · intro h
    obtain ⟨⟨line, start⟩, hline, h⟩ := List.mem_filterMap.mp h
    obtain ⟨name', hname, h⟩ := Option.bind_eq_some_iff.mp h
    obtain ⟨span', hspan, h⟩ := Option.map_eq_some_iff.mp h
    obtain ⟨rfl, rfl⟩ := Prod.mk.inj h
    exact ⟨start, ⟨line, List.mem_zipIdx_iff_getElem?.mp hline, hname⟩, hspan⟩
  · rintro ⟨start, ⟨line, hline, hname⟩, hspan⟩
    refine List.mem_filterMap.mpr ⟨(line, start), List.mem_zipIdx_iff_getElem?.mpr hline, ?_⟩
    simp only [hname, hspan, Option.bind_some, Option.map_some]

/-- Types are listed by their first lines. -/
theorem pairwise_typesOf (declares : List Char → Option (List Char)) (code : List (List Char)) :
    (typesOf declares code).Pairwise fun t t' => t.1.first < t'.1.first := by
  refine (pairwise_zipIdx code).filterMap _ ?_
  intro p q hlt t ht u hu
  obtain ⟨name, _, ht⟩ := Option.bind_eq_some_iff.mp ht
  obtain ⟨span, hspan, rfl⟩ := Option.map_eq_some_iff.mp ht
  obtain ⟨name', _, hu⟩ := Option.bind_eq_some_iff.mp hu
  obtain ⟨span', hspan', rfl⟩ := Option.map_eq_some_iff.mp hu
  simp only [first_of_braceBody? hspan, first_of_braceBody? hspan']
  omega

/-- Spans and names of the types around a line. -/
def typesAround (declares : List Char → Option (List Char)) (code : List (List Char))
    (index : Nat) : List (Span × List Char) :=
  (typesOf declares code).filter fun (span, _) => span.first - 1 < index && index < span.last

/-- The types listed around a line are those that are around it. -/
theorem mem_typesAround_iff {span : Span} : (span, name) ∈ typesAround declares code index ↔
    Around declares code index (span.first - 1) name ∧
      braceBody? code (span.first - 1) 3 = some span := by
  rw [typesAround, List.mem_filter, mem_typesOf_iff, Bool.and_eq_true, decide_eq_true_eq,
    decide_eq_true_eq]
  constructor
  · rintro ⟨⟨start, hdeclared, hspan⟩, habove, hinside⟩
    have hstart : span.first - 1 = start := by
      rw [first_of_braceBody? hspan, Nat.add_sub_cancel]
    rw [hstart] at habove ⊢
    exact ⟨⟨hdeclared, habove, span, hspan, hinside⟩, hspan⟩
  · rintro ⟨haround, hspan⟩
    obtain ⟨span', hspan', hinside⟩ := haround.inside
    obtain rfl := Option.some.inj (hspan.symm.trans hspan')
    exact ⟨⟨_, haround.declared, hspan⟩, haround.above, hinside⟩

/-- The last type around a line is the innermost one. -/
theorem innermost_of_getLast? {span : Span}
    (h : (typesAround declares code index).getLast? = some (span, name)) :
    Innermost declares code index (span.first - 1) name := by
  obtain ⟨before, hlist⟩ := List.getLast?_eq_some_iff.mp h
  have hsorted : (typesAround declares code index).Pairwise fun t t' => t.1.first < t'.1.first :=
    (pairwise_typesOf declares code).filter _
  rw [hlist, List.pairwise_append] at hsorted
  obtain ⟨haround, _⟩ := mem_typesAround_iff.mp (List.mem_of_getLast? h)
  refine ⟨haround, fun start' name' h' hne => ?_⟩
  obtain ⟨span', hspan', hinside⟩ := h'.inside
  have hfirst' : span'.first - 1 = start' := by
    rw [first_of_braceBody? hspan', Nat.add_sub_cancel]
  have hmem : (span', name') ∈ typesAround declares code index :=
    mem_typesAround_iff.mpr (hfirst'.symm ▸ ⟨h', hspan'⟩)
  -- the other type is listed before, so it begins above
  have hbefore : span'.first < span.first := by
    rw [hlist, List.mem_append, List.mem_singleton] at hmem
    rcases hmem with hmem | heq
    · exact hsorted.2.2 _ hmem _ List.mem_cons_self
    · obtain ⟨rfl, -⟩ := Prod.mk.inj heq
      exact absurd hfirst'.symm hne
  have habove := haround.above
  have hone := first_of_braceBody? hspan'
  exact ⟨h'.declared, by omega, span', hspan', by omega⟩

/-- The owner at a line is the innermost type around it, and there is none when no type is. -/
theorem ownerAt_typesOf (declares : List Char → Option (List Char)) (code : List (List Char))
    (index : Nat) :
    (∀ name, ownerAt (typesOf declares code) index = some (String.ofList name) ↔
      ∃ start, Innermost declares code index start name) ∧
    (ownerAt (typesOf declares code) index = none ↔
      ∀ start name, ¬Around declares code index start name) := by
  have howner : ownerAt (typesOf declares code) index =
      (typesAround declares code index).getLast?.map fun t => String.ofList t.2 := rfl
  rw [howner]
  cases hlast : (typesAround declares code index).getLast? with
  | none =>
    rw [List.getLast?_eq_none_iff] at hlast
    have hnone : ∀ start name, ¬Around declares code index start name := by
      intro start name h
      obtain ⟨span, hspan, _⟩ := h.inside
      have hfirst : span.first - 1 = start := by
        rw [first_of_braceBody? hspan, Nat.add_sub_cancel]
      have hmem : (span, name) ∈ typesAround declares code index :=
        mem_typesAround_iff.mpr (hfirst.symm ▸ ⟨h, hspan⟩)
      rw [hlast] at hmem
      cases hmem
    refine ⟨fun name => iff_of_false (Option.some_ne_none _).symm ?_, iff_of_true rfl hnone⟩
    rintro ⟨start, h⟩
    exact hnone start name h.toAround
  | some t =>
    obtain ⟨span, found⟩ := t
    have hinnermost := innermost_of_getLast? hlast
    refine ⟨fun name => ?_, iff_of_false (Option.some_ne_none _) fun h =>
      h _ _ hinnermost.toAround⟩
    rw [Option.map_some, Option.some_inj, String.ofList_inj]
    constructor
    · rintro rfl
      exact ⟨_, hinnermost⟩
    · rintro ⟨start, h⟩
      obtain rfl := h.start_eq hinnermost
      exact hinnermost.declared.name_eq h.declared

/-! ## Declarations above a line -/

/-- The first declaration on the way up from a line is the nearest one. -/
theorem nearest_of_findSome?
    (h : (code.take (index + 1)).reverse.findSome? declares = some name) :
    ∃ start, Nearest declares code index start name := by
  obtain ⟨below, line, above, hsplit, hname, hbelow⟩ := List.findSome?_eq_some_iff.mp h
  have htake : code.take (index + 1) = above.reverse ++ line :: below.reverse := by
    rw [← List.reverse_reverse (code.take (index + 1)), hsplit, List.reverse_append,
      List.reverse_cons, List.append_assoc, List.singleton_append]
  have hat (i : Nat) (hi : i ≤ index) :
      code[i]? = (above.reverse ++ line :: below.reverse)[i]? := by
    rw [← htake, List.getElem?_take_of_lt (Nat.lt_succ_of_le hi)]
  have hle : above.reverse.length ≤ index := by
    have hlength := congrArg List.length htake
    rw [List.length_take, List.length_append, List.length_cons] at hlength
    omega
  refine ⟨above.reverse.length, ⟨line, ?_, hname⟩, hle, ?_⟩
  · rw [hat _ hle, List.getElem?_append_right (Nat.le_refl _), Nat.sub_self]
    rfl
  · rintro start' name' ⟨line', hline', hname'⟩ hle'
    by_contra hlt
    -- a line behind the one found was seen before it and declares nothing
    obtain ⟨k, rfl⟩ := Nat.exists_eq_add_of_lt (Nat.not_le.mp hlt)
    rw [hat _ hle', List.getElem?_append_right (by omega),
      show above.reverse.length + k + 1 - above.reverse.length = k + 1 by omega] at hline'
    have hmem : line' ∈ below := List.mem_reverse.mp (List.mem_of_getElem? hline')
    rw [hbelow line' hmem] at hname'
    cases hname'

/-- The way up from a line finds nothing when all declarations are below. -/
theorem findSome?_eq_none_iff_below : (code.take (index + 1)).reverse.findSome? declares = none ↔
    ∀ start name, DeclaredAt declares code start name → index < start := by
  rw [List.findSome?_eq_none_iff]
  constructor
  · rintro h start name ⟨line, hline, hname⟩
    by_contra hle
    have hmem : line ∈ (code.take (index + 1)).reverse := by
      rw [List.mem_reverse]
      refine List.mem_of_getElem? (i := start) ?_
      rw [List.getElem?_take_of_lt (by omega), hline]
    rw [h line hmem] at hname
    cases hname
  · intro h line hmem
    obtain ⟨start, hline⟩ := List.mem_iff_getElem?.mp (List.mem_reverse.mp hmem)
    rw [List.getElem?_take, Option.ite_none_right_eq_some] at hline
    obtain ⟨hlt, hline⟩ := hline
    by_contra hsome
    obtain ⟨name, hname⟩ := Option.ne_none_iff_exists'.mp hsome
    have hbelow := h start name ⟨line, hline, hname⟩
    omega

/-- A search upwards finds the type that is declared nearest. -/
theorem findSome?_reverse_take : (code.take (index + 1)).reverse.findSome? declares = some name ↔
    ∃ start, Nearest declares code index start name := by
  refine ⟨nearest_of_findSome?, ?_⟩
  rintro ⟨start, h⟩
  cases hfound : (code.take (index + 1)).reverse.findSome? declares with
  | none =>
    have hbelow := findSome?_eq_none_iff_below.mp hfound _ _ h.declared
    exact absurd h.above (Nat.not_le.mpr hbelow)
  | some found =>
    obtain ⟨start', h'⟩ := nearest_of_findSome? hfound
    obtain rfl := h.start_eq h'
    rw [h.declared.name_eq h'.declared]

/-! ## The readers -/

/-- The name of the type that a line of C# declares, by the word behind `class`, `struct`, `record`
or `interface`. Comments declare none. Of two such words the second is taken for the name, and so is
a word behind a constraint to classes or structures. -/
def Csharp.declaredType? (line : List Char) : Option (List Char) :=
  if isComment (trim line) then none else (Csharp.typeStart.find? line).map (·.group 1)

/-- The name of the class that a line of a script declares, by the word behind `class`. Where a
class has no name, this is the word in front of the class that it extends. -/
def Script.declaredType? (line : List Char) : Option (List Char) :=
  (Script.classStart.find? line).map (·.group 1)

/-- The name of the type that a line of Rust begins an implementation of. Where a trait has
arguments with more than names, such as references, its own name is taken. -/
def Rust.declaredType? (line : List Char) : Option (List Char) :=
  (Rust.blockStart.find? line).map (·.group 1)

/-- The name of the type that a line of Java declares, by the word behind `class`, `interface`,
`enum` or `record`. -/
def Java.declaredType? (line : List Char) : Option (List Char) :=
  (Java.typeStart.find? line).map (·.group 1)

/-- The owner of a method is the innermost type around its line. -/
def OwnedByInnermost (declares : List Char → Option (List Char)) (code : List (List Char))
    (m : Method) : Prop :=
  (∀ name, m.owner = some (String.ofList name) ↔
    ∃ start, Innermost declares code (m.line - 1) start name) ∧
  (m.owner = none ↔ ∀ start name, ¬Around declares code (m.line - 1) start name)

/-- The owner of a method is the type declared nearest above, or on its line. -/
def OwnedByNearest (declares : List Char → Option (List Char)) (code : List (List Char))
    (m : Method) : Prop :=
  (∀ name, m.owner = some (String.ofList name) ↔
    ∃ start, Nearest declares code (m.line - 1) start name) ∧
  (m.owner = none ↔ ∀ start name, DeclaredAt declares code start name → m.line - 1 < start)

variable {file : Path} {m : Method}

/-- The types of C# are listed by its rule for declarations. -/
theorem Csharp.types_eq (code : List (List Char)) :
    Csharp.types code = typesOf Csharp.declaredType? code := by
  unfold Csharp.types typesOf
  congr 1
  funext ⟨line, i⟩
  simp only [Csharp.declaredType?]
  split
  · rfl
  · rw [Option.bind_map]
    rfl

/-- The classes of scripts are listed by their rule for declarations. -/
theorem Script.classes_eq (code : List (List Char)) :
    Script.classes code = typesOf Script.declaredType? code := by
  unfold Script.classes typesOf
  congr 1
  funext ⟨line, i⟩
  simp only [Script.declaredType?, Option.bind_map]
  rfl

/-- The implementations of Rust are listed by its rule for declarations. -/
theorem Rust.blocks_eq (code : List (List Char)) :
    Rust.blocks code = typesOf Rust.declaredType? code := by
  unfold Rust.blocks typesOf
  congr 1
  funext ⟨line, i⟩
  simp only [Rust.declaredType?, Option.bind_map]
  rfl

/-- The owner of a method of C# is looked up by its line. -/
theorem Csharp.owner_of_mem_methods (h : m ∈ Csharp.methods file code) :
    m.owner = ownerAt (Csharp.types code) (m.line - 1) := by
  obtain ⟨⟨line, i⟩, _, h⟩ := List.mem_filterMap.mp h
  obtain ⟨span, hread, howner⟩ := Csharp.exists_readFrom h
  rw [howner, hread.line_eq_succ, Nat.add_sub_cancel]

/-- The owner of a method of a script is looked up by its line. -/
theorem Script.owner_of_mem_methods (h : m ∈ Script.methods file code) :
    m.owner = ownerAt (Script.classes code) (m.line - 1) := by
  obtain ⟨⟨line, i⟩, _, h⟩ := List.mem_filterMap.mp h
  obtain ⟨span, hread, howner⟩ := Script.exists_readFrom h
  rw [howner, hread.line_eq_succ, Nat.add_sub_cancel]

/-- The owner of a method of Rust is looked up by its line. -/
theorem Rust.owner_of_mem_methods (h : m ∈ Rust.methods file code) :
    m.owner = ownerAt (Rust.blocks code) (m.line - 1) := by
  obtain ⟨⟨line, i⟩, _, h⟩ := List.mem_filterMap.mp h
  obtain ⟨span, hread, howner⟩ := Rust.exists_readFrom h
  rw [howner, hread.line_eq_succ, Nat.add_sub_cancel]

/-- The owner of a method of Java is looked up above its line. -/
theorem Java.owner_of_mem_methods (h : m ∈ Java.methods file code) :
    m.owner = Java.ownerAbove code (m.line - 1) := by
  obtain ⟨⟨line, i⟩, _, h⟩ := List.mem_filterMap.mp h
  obtain ⟨span, hread, howner⟩ := Java.exists_readFrom h
  rw [howner, hread.line_eq_succ, Nat.add_sub_cancel]

/-- Above a line of Java the declarations are searched from the line upwards. -/
theorem Java.ownerAbove_eq (code : List (List Char)) (index : Nat) :
    Java.ownerAbove code index =
      ((code.take (index + 1)).reverse.findSome? Java.declaredType?).map String.ofList := by
  have hdeclares : Java.declaredType? = Option.map (·.group 1) ∘ Java.typeStart.find? := rfl
  rw [hdeclares, ← List.map_findSome?, Option.map_map]
  rfl

/-- Owners in Java are the types that are declared nearest above. -/
theorem Java.ownedByNearest (h : m ∈ Java.methods file code) :
    OwnedByNearest Java.declaredType? code m := by
  have howner := Java.owner_of_mem_methods h
  rw [Java.ownerAbove_eq] at howner
  constructor
  · intro name
    rw [← findSome?_reverse_take, howner, Option.map_eq_some_iff]
    simp only [String.ofList_inj, exists_eq_right]
  · rw [← findSome?_eq_none_iff_below, howner, Option.map_eq_none_iff]

/-- Where the nearest type is open, the owner is the innermost type. -/
theorem OwnedByNearest.ownedByInnermost (h : OwnedByNearest declares code m)
    (hopen : ∀ start name, Nearest declares code (m.line - 1) start name →
      Around declares code (m.line - 1) start name) :
    OwnedByInnermost declares code m := by
  have hinnermost {name : List Char} (howner : m.owner = some (String.ofList name)) :
      ∃ start, Innermost declares code (m.line - 1) start name := by
    obtain ⟨start, hnearest⟩ := (h.1 name).mp howner
    exact ⟨start, hnearest.innermost (hopen start name hnearest)⟩
  have hnone : m.owner = none ↔ ∀ start name, ¬Around declares code (m.line - 1) start name := by
    constructor
    · intro howner start name haround
      have hbelow := h.2.mp howner start name haround.declared
      exact absurd haround.above (Nat.not_lt.mpr (Nat.le_of_lt hbelow))
    · intro hnone
      by_contra hsome
      obtain ⟨owner, howner⟩ := Option.ne_none_iff_exists'.mp hsome
      rw [← String.ofList_toList (s := owner)] at howner
      obtain ⟨start, h'⟩ := hinnermost howner
      exact hnone start _ h'.toAround
  refine ⟨fun name => ⟨hinnermost, ?_⟩, hnone⟩
  rintro ⟨start, h'⟩
  cases howner : m.owner with
  | none => exact absurd h'.toAround (hnone.mp howner start name)
  | some owner =>
    rw [← String.ofList_toList (s := owner)] at howner
    obtain ⟨start', h''⟩ := hinnermost howner
    obtain rfl := h'.start_eq h''
    rw [h'.declared.name_eq h''.declared, String.ofList_toList]

/-- Every method of C#, TypeScript, JavaScript and Rust belongs to the innermost type around it,
and to none where there is no type around it. A method of Java belongs to the type that is declared
nearest above, which is the innermost one around it where it is still open. Types are declared by
the lines that the pattern of a language takes, under the names that it takes. -/
theorem owners_of_methods (file : Path) (code : List (List Char)) :
    (∀ m ∈ Csharp.methods file code, OwnedByInnermost Csharp.declaredType? code m) ∧
    (∀ m ∈ Script.methods file code, OwnedByInnermost Script.declaredType? code m) ∧
    (∀ m ∈ Rust.methods file code, OwnedByInnermost Rust.declaredType? code m) ∧
    ∀ m ∈ Java.methods file code, OwnedByNearest Java.declaredType? code m ∧
      ((∀ start name, Nearest Java.declaredType? code (m.line - 1) start name →
          Around Java.declaredType? code (m.line - 1) start name) →
        OwnedByInnermost Java.declaredType? code m) := by
  have hat {declares : List Char → Option (List Char)} {m : Method}
      (h : m.owner = ownerAt (typesOf declares code) (m.line - 1)) :
      OwnedByInnermost declares code m := by
    rw [OwnedByInnermost, h]
    exact ownerAt_typesOf declares code (m.line - 1)
  refine ⟨fun m hm => hat ?_, fun m hm => hat ?_, fun m hm => hat ?_, fun m hm => ?_⟩
  · rw [Csharp.owner_of_mem_methods hm, Csharp.types_eq]
  · rw [Script.owner_of_mem_methods hm, Script.classes_eq]
  · rw [Rust.owner_of_mem_methods hm, Rust.blocks_eq]
  · exact ⟨Java.ownedByNearest hm, (Java.ownedByNearest hm).ownedByInnermost⟩

-- The owner is the trait, the second word for a type or the word for a base, where a pattern takes
-- one of these for the name.
example : Rust.declaredType? "impl From<&str> for Price \x7b".toList = some "From".toList ∧
    Csharp.declaredType? "record struct Point \x7b".toList = some "struct".toList ∧
    Script.declaredType? "export default class extends Base \x7b".toList =
      some "extends".toList := by
  decide +kernel

/-- A class with a class in it and a method behind that. -/
def nestedClasses : List (List Char) :=
  ["class Outer \x7b".toList, "    class Inner \x7b".toList, "        int one() \x7b".toList,
    "            return 1;".toList, "        \x7d".toList, "    \x7d".toList,
    "    int two() \x7b".toList, "        return 2;".toList, "    \x7d".toList,
    "\x7d".toList]

/-- Behind a nested class of C# a method is owned by the class around both. -/
theorem owner_behind_nested_class : ∃ m ∈ Csharp.methods "Outer.cs" nestedClasses,
    m.name = "two" ∧ m.owner = some "Outer" ∧
      ∃ start, Innermost Csharp.declaredType? nestedClasses (m.line - 1) start "Outer".toList := by
  have hmem : ("two", some "Outer") ∈
      (Csharp.methods "Outer.cs" nestedClasses).map fun m => (m.name, m.owner) := by
    decide +kernel
  obtain ⟨m, hm, htwo⟩ := List.exists_of_mem_map hmem
  obtain ⟨hname, howner⟩ := Prod.mk.inj htwo
  have howned := (owners_of_methods "Outer.cs" nestedClasses).1 m hm
  exact ⟨m, hm, hname, howner, (howned.1 "Outer".toList).mp howner⟩

/-- In Java the method is counted to the class that has ended above it. -/
theorem ended_class_owns : ∃ m ∈ Java.methods "Outer.java" nestedClasses,
    m.name = "two" ∧ m.owner = some "Inner" ∧
      Innermost Java.declaredType? nestedClasses (m.line - 1) 0 "Outer".toList := by
  have hmem : ("two", 7, some "Inner") ∈
      (Java.methods "Outer.java" nestedClasses).map fun m => (m.name, m.line, m.owner) := by
    decide +kernel
  obtain ⟨m, hm, htwo⟩ := List.exists_of_mem_map hmem
  obtain ⟨hname, hline, howner⟩ : m.name = "two" ∧ m.line = 7 ∧ m.owner = some "Inner" := by
    simpa only [Prod.mk.injEq] using htwo
  have haround : (typesAround Java.declaredType? nestedClasses 6).getLast?.map
      (fun t => (t.1.first, t.2)) = some (1, "Outer".toList) := by
    decide +kernel
  obtain ⟨⟨span, name⟩, hlast, hspan⟩ := Option.map_eq_some_iff.mp haround
  obtain ⟨hfirst, rfl⟩ := Prod.mk.inj hspan
  have hinnermost := innermost_of_getLast? hlast
  rw [hfirst] at hinnermost
  exact ⟨m, hm, hname, howner, hline ▸ hinnermost⟩

end Adjudicator.Reader
