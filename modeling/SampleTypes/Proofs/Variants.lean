import Mathlib.Data.List.Sort
import Mathlib.Data.String.Basic
import SampleTypes.TypeExpr.Union

/-!
# Variants with distinct texts

Both ways of making a union keep one type for each text.  So nothing is in a union that was not observed, and
whatever was observed has a type with its text in the union.
-/

namespace SampleTypes

theorem mem_of_mem_keepFirst {α : Type} {same : α → α → Bool} {items : List α} {item : α}
    (member : item ∈ keepFirst same items) : item ∈ items := by
  induction items with
  | nil => cases member
  | cons first others induction =>
      rcases List.mem_cons.mp member with rfl | later
      · exact List.mem_cons_self
      · exact List.mem_cons_of_mem _ (induction (List.mem_filter.mp later).1)

/-- Of the items that are the same one is kept. -/
theorem exists_mem_keepFirst {α : Type} (same : α → α → Bool)
    (reflexive : ∀ item, same item item = true)
    (transitive : ∀ first second third, same first second = true → same second third = true →
      same first third = true) {items : List α} {item : α} (member : item ∈ items) :
    ∃ kept ∈ keepFirst same items, same kept item = true := by
  induction items with
  | nil => cases member
  | cons first others induction =>
      rcases List.mem_cons.mp member with rfl | later
      · exact ⟨item, List.mem_cons_self, reflexive item⟩
      · obtain ⟨kept, keptMember, keptSame⟩ := induction later
        by_cases sameAsFirst : same first kept = true
        · exact ⟨first, List.mem_cons_self, transitive first kept item sameAsFirst keptSame⟩
        · refine ⟨kept, List.mem_cons_of_mem _ (List.mem_filter.mpr ⟨keptMember, ?_⟩), keptSame⟩
          simpa using sameAsFirst

theorem pairwise_keepFirst {α : Type} (same : α → α → Bool) (items : List α) :
    (keepFirst same items).Pairwise fun earlier later => same earlier later = false := by
  induction items with
  | nil => exact .nil
  | cons item items induction =>
      refine .cons ?_ (induction.filter _)
      intro later member
      simpa using (List.mem_filter.mp member).2

/-- Items that are told apart in the same way are kept in the same way. -/
theorem keepFirst_map {α β : Type} {same : α → α → Bool} {sameImage : β → β → Bool} {image : α → β}
    (agree : ∀ left right, sameImage (image left) (image right) = same left right) (items : List α) :
    keepFirst sameImage (items.map image) = (keepFirst same items).map image := by
  induction items with
  | nil => rfl
  | cons item items induction =>
      rw [List.map_cons, keepFirst, keepFirst, induction, List.map_cons, List.filter_map]
      simp only [Function.comp_def, agree]

/-- Of later items those are kept that no earlier item is the same as. -/
theorem keepFirst_append {α : Type} (same : α → α → Bool) (items more : List α) :
    keepFirst same (items ++ more) =
      keepFirst same items ++ (keepFirst same more).filter fun later => !items.any (same · later) := by
  induction items with
  | nil => simp [keepFirst]
  | cons first others induction =>
      simp only [List.cons_append, keepFirst, induction, List.filter_append, List.filter_filter, List.any_cons,
        Bool.not_or]

theorem keepFirst_append_of_repeated {α : Type} {same : α → α → Bool} {items more : List α}
    (repeated : ∀ item ∈ more, ∃ earlier ∈ items, same earlier item = true) :
    keepFirst same (items ++ more) = keepFirst same items := by
  rw [keepFirst_append, List.filter_eq_nil_iff.mpr, List.append_nil]
  intro item member
  simpa using repeated item (mem_of_mem_keepFirst member)

namespace TextIndex

variable {α : Type}

/-- Filing depends on the order of the texts only. -/
theorem insert_map {β : Type} {textImage : String → String} (increasing : StrictMono textImage)
    (image : α → β) (text : String) (value : α) (index : List (String × α)) :
    insert (textImage text) (image value) (index.map (Prod.map textImage image)) =
      (insert text value index).map (Prod.map textImage image) := by
  induction index with
  | nil => rfl
  | cons first others induction =>
      rw [List.map_cons, insert, insert]
      simp only [Prod.map_fst, increasing.lt_iff_lt, increasing.injective.eq_iff]
      split
      · rfl
      · split
        · rfl
        · rw [induction, List.map_cons]

theorem ofList_map {β : Type} {textImage : String → String} (increasing : StrictMono textImage)
    (image : α → β) (entries : List (String × α)) :
    ofList (entries.map (Prod.map textImage image)) =
      (ofList entries).map (Prod.map textImage image) := by
  have general (index : List (String × α)) :
      (entries.map (Prod.map textImage image)).foldl (fun index entry => insert entry.1 entry.2 index)
          (index.map (Prod.map textImage image)) =
        (entries.foldl (fun index entry => insert entry.1 entry.2 index) index).map
          (Prod.map textImage image) := by
    induction entries generalizing index with
    | nil => rfl
    | cons first others induction =>
        rw [List.map_cons, List.foldl_cons, List.foldl_cons, ← induction, ← insert_map increasing]
        rfl
  exact general []

theorem mem_of_mem_insert {text : String} {value : α} {index : List (String × α)} {entry : String × α}
    (member : entry ∈ insert text value index) : entry = (text, value) ∨ entry ∈ index := by
  induction index with
  | nil => exact .inl (List.mem_singleton.mp member)
  | cons first others induction =>
      unfold insert at member
      split at member
      · exact List.mem_cons.mp member
      · split at member
        · rcases List.mem_cons.mp member with same | later
          · exact .inl same
          · exact .inr (List.mem_cons_of_mem _ later)
        · rcases List.mem_cons.mp member with same | later
          · exact .inr (same ▸ List.mem_cons_self)
          · exact (induction later).imp_right (List.mem_cons_of_mem _)

theorem mem_insert_self (text : String) (value : α) (index : List (String × α)) :
    (text, value) ∈ insert text value index := by
  induction index with
  | nil => exact List.mem_cons_self
  | cons first others induction =>
      unfold insert
      split
      · exact List.mem_cons_self
      · split
        · exact List.mem_cons_self
        · exact List.mem_cons_of_mem _ induction

/-- Filing a value keeps every text that had a value. -/
theorem exists_mem_insert {text : String} {value : α} {index : List (String × α)} {entry : String × α}
    (member : entry ∈ index) : ∃ kept ∈ insert text value index, kept.1 = entry.1 := by
  induction index with
  | nil => cases member
  | cons first others induction =>
      unfold insert
      split
      · exact ⟨entry, List.mem_cons_of_mem _ member, rfl⟩
      · split
        · rename_i same
          rcases List.mem_cons.mp member with rfl | later
          · exact ⟨(text, value), List.mem_cons_self, same⟩
          · exact ⟨entry, List.mem_cons_of_mem _ later, rfl⟩
        · rcases List.mem_cons.mp member with rfl | later
          · exact ⟨entry, List.mem_cons_self, rfl⟩
          · obtain ⟨kept, keptMember, keptText⟩ := induction later
            exact ⟨kept, List.mem_cons_of_mem _ keptMember, keptText⟩

private theorem mem_foldl_insert {entries index : List (String × α)} {entry : String × α}
    (member : entry ∈ entries.foldl (fun index entry => insert entry.1 entry.2 index) index) :
    entry ∈ entries ∨ entry ∈ index := by
  induction entries generalizing index with
  | nil => exact .inr member
  | cons first others induction =>
      rcases induction member with later | earlier
      · exact .inl (List.mem_cons_of_mem _ later)
      · rcases mem_of_mem_insert earlier with same | kept
        · exact .inl (same ▸ List.mem_cons_self)
        · exact .inr kept

theorem mem_of_mem_ofList {entries : List (String × α)} {entry : String × α}
    (member : entry ∈ ofList entries) : entry ∈ entries :=
  (mem_foldl_insert member).resolve_right List.not_mem_nil

private theorem exists_mem_foldl_insert {entries index : List (String × α)} {entry : String × α}
    (member : entry ∈ entries ∨ entry ∈ index) :
    ∃ kept ∈ entries.foldl (fun index entry => insert entry.1 entry.2 index) index,
      kept.1 = entry.1 := by
  induction entries generalizing index entry with
  | nil =>
      rcases member with impossible | earlier
      · cases impossible
      · exact ⟨entry, earlier, rfl⟩
  | cons first others induction =>
      rcases member with inEntries | earlier
      · rcases List.mem_cons.mp inEntries with rfl | later
        · exact induction (.inr (mem_insert_self entry.1 entry.2 index))
        · exact induction (.inl later)
      · obtain ⟨kept, keptMember, keptText⟩ := exists_mem_insert earlier
        obtain ⟨last, lastMember, lastText⟩ := induction (.inr keptMember)
        exact ⟨last, lastMember, lastText.trans keptText⟩

theorem exists_mem_ofList {entries : List (String × α)} {entry : String × α}
    (member : entry ∈ entries) : ∃ kept ∈ ofList entries, kept.1 = entry.1 :=
  exists_mem_foldl_insert (.inl member)

theorem mem_texts_iff {items : List String} {text : String} : text ∈ texts items ↔ text ∈ items := by
  unfold texts
  rw [List.mem_map]
  constructor
  · rintro ⟨entry, member, rfl⟩
    obtain ⟨item, itemMember, same⟩ := List.mem_map.mp (mem_of_mem_ofList member)
    rw [← same]
    exact itemMember
  · intro member
    obtain ⟨kept, keptMember, keptText⟩ :=
      exists_mem_ofList (List.mem_map_of_mem (f := fun text => (text, ())) member)
    exact ⟨kept, keptMember, keptText⟩

theorem pairwise_insert {text : String} {value : α} {index : List (String × α)}
    (ascending : index.Pairwise fun earlier later => earlier.1 < later.1) :
    (insert text value index).Pairwise fun earlier later => earlier.1 < later.1 := by
  induction ascending with
  | nil => exact List.pairwise_singleton _ _
  | @cons first others below ascending induction =>
      unfold insert
      split
      · rename_i less
        refine .cons ?_ (.cons below ascending)
        intro later member
        rcases List.mem_cons.mp member with rfl | member
        · exact less
        · exact less.trans (below later member)
      · split
        · rename_i same
          refine .cons ?_ ascending
          intro later member
          rw [same]
          exact below later member
        · rename_i notLess different
          refine .cons ?_ induction
          intro later member
          rcases mem_of_mem_insert member with rfl | member
          · exact lt_of_le_of_ne (not_lt.mp notLess) (Ne.symm different)
          · exact below later member

/-- An index is in ascending order of its texts. -/
theorem pairwise_ofList (entries : List (String × α)) :
    (ofList entries).Pairwise fun earlier later => earlier.1 < later.1 := by
  have general (index : List (String × α))
      (ascending : index.Pairwise fun earlier later => earlier.1 < later.1) :
      (entries.foldl (fun index entry => insert entry.1 entry.2 index) index).Pairwise
        fun earlier later => earlier.1 < later.1 := by
    induction entries generalizing index with
    | nil => exact ascending
    | cons first others induction => exact induction _ (pairwise_insert ascending)
  exact general [] .nil

theorem pairwise_texts (items : List String) : (texts items).Pairwise (· < ·) := by
  rw [texts, List.pairwise_map]
  exact pairwise_ofList _

/-- Which texts there are decides about the ascending list of them. -/
theorem texts_eq {items others : List String} (same : ∀ text, text ∈ items ↔ text ∈ others) :
    texts items = texts others := by
  apply (pairwise_texts items).eq_of_mem_iff (pairwise_texts others)
  intro text
  rw [mem_texts_iff, mem_texts_iff, same]

end TextIndex

namespace TypeExpr

variable {settings : Settings} {types : List TypeExpr} {type : TypeExpr}

/-- The types with distinct texts in ascending order of their texts. -/
def sortedByText (settings : Settings) (types : List TypeExpr) : List TypeExpr :=
  (TextIndex.ofList (types.map fun type => (type.render settings, type))).map (·.2)

theorem sortedUnion_eq : sortedUnion settings types = unionOf (sortedByText settings types) :=
  rfl

/-- A list of variants of the types: it has no types but these, and for each of them one with its text. -/
structure Represents (settings : Settings) (variants types : List TypeExpr) : Prop where
  mem_of_mem : ∀ type ∈ variants, type ∈ types
  exists_mem : ∀ type ∈ types, ∃ variant ∈ variants, variant.render settings = type.render settings

theorem represents_distinctByText (settings : Settings) (types : List TypeExpr) :
    Represents settings (distinctByText settings types) types := by
  constructor
  · intro type member
    obtain ⟨entry, entryMember, rfl⟩ := List.mem_map.mp member
    obtain ⟨original, originalMember, same⟩ := List.mem_map.mp (mem_of_mem_keepFirst entryMember)
    rw [← same]
    exact originalMember
  · intro type member
    have entryMember : (type.render settings, type) ∈
        types.map fun type => (type.render settings, type) := List.mem_map.mpr ⟨type, member, rfl⟩
    obtain ⟨kept, keptMember, keptSame⟩ := exists_mem_keepFirst
      (fun left right : String × TypeExpr => left.1 == right.1) (by simp) (by simp_all) entryMember
    obtain ⟨original, originalMember, same⟩ := List.mem_map.mp (mem_of_mem_keepFirst keptMember)
    refine ⟨kept.2, List.mem_map.mpr ⟨kept, keptMember, rfl⟩, ?_⟩
    rw [← same] at keptSame ⊢
    exact eq_of_beq keptSame

theorem pairwise_distinctByText (settings : Settings) (types : List TypeExpr) :
    (distinctByText settings types).Pairwise fun earlier later =>
      earlier.render settings ≠ later.render settings := by
  rw [distinctByText, List.pairwise_map]
  refine (pairwise_keepFirst _ _).imp_of_mem ?_
  intro earlier later earlierMember laterMember differ
  obtain ⟨first, -, rfl⟩ := List.mem_map.mp (mem_of_mem_keepFirst earlierMember)
  obtain ⟨second, -, rfl⟩ := List.mem_map.mp (mem_of_mem_keepFirst laterMember)
  simpa using differ

/-- Types that have come up before add no variants. -/
theorem distinctByText_append {more : List TypeExpr} (repeated : ∀ type ∈ more, type ∈ types) :
    distinctByText settings (types ++ more) = distinctByText settings types := by
  rw [distinctByText, List.map_append, keepFirst_append_of_repeated, distinctByText]
  intro entry member
  obtain ⟨type, typeMember, rfl⟩ := List.mem_map.mp member
  exact ⟨_, List.mem_map_of_mem (repeated type typeMember), beq_self_eq_true _⟩

theorem represents_sortedByText (settings : Settings) (types : List TypeExpr) :
    Represents settings (sortedByText settings types) types := by
  constructor
  · intro type member
    obtain ⟨entry, entryMember, rfl⟩ := List.mem_map.mp member
    obtain ⟨original, originalMember, same⟩ :=
      List.mem_map.mp (TextIndex.mem_of_mem_ofList entryMember)
    rw [← same]
    exact originalMember
  · intro type member
    have entryMember : (type.render settings, type) ∈
        types.map fun type => (type.render settings, type) := List.mem_map.mpr ⟨type, member, rfl⟩
    obtain ⟨kept, keptMember, keptText⟩ := TextIndex.exists_mem_ofList entryMember
    obtain ⟨original, originalMember, same⟩ :=
      List.mem_map.mp (TextIndex.mem_of_mem_ofList keptMember)
    refine ⟨kept.2, List.mem_map.mpr ⟨kept, keptMember, rfl⟩, ?_⟩
    rw [← same] at keptText ⊢
    exact keptText

theorem pairwise_sortedByText (settings : Settings) (types : List TypeExpr) :
    (sortedByText settings types).Pairwise fun earlier later =>
      earlier.render settings < later.render settings := by
  rw [sortedByText, List.pairwise_map]
  refine (TextIndex.pairwise_ofList _).imp_of_mem ?_
  intro earlier later earlierMember laterMember less
  obtain ⟨first, -, rfl⟩ := List.mem_map.mp (TextIndex.mem_of_mem_ofList earlierMember)
  obtain ⟨second, -, rfl⟩ := List.mem_map.mp (TextIndex.mem_of_mem_ofList laterMember)
  exact less

/-- Whether types of which the texts are the same are the same. -/
def ToldApart (settings : Settings) (types : List TypeExpr) : Prop :=
  ∀ left ∈ types, ∀ right ∈ types, left.render settings = right.render settings → left = right

section ToldApart

variable {others : List TypeExpr} (toldApart : ToldApart settings types)
include toldApart

theorem ToldApart.mem_sortedByText_iff : type ∈ sortedByText settings types ↔ type ∈ types := by
  have represents := represents_sortedByText settings types
  constructor
  · exact represents.mem_of_mem type
  · intro member
    obtain ⟨variant, variantMember, same⟩ := represents.exists_mem type member
    rw [← toldApart variant (represents.mem_of_mem variant variantMember) type member same]
    exact variantMember

theorem ToldApart.mem_distinctByText_iff : type ∈ distinctByText settings types ↔ type ∈ types := by
  have represents := represents_distinctByText settings types
  constructor
  · exact represents.mem_of_mem type
  · intro member
    obtain ⟨variant, variantMember, same⟩ := represents.exists_mem type member
    rw [← toldApart variant (represents.mem_of_mem variant variantMember) type member same]
    exact variantMember

/-- The sorted union of types that are told apart depends only on which types there are. -/
theorem ToldApart.sortedUnion_eq (sameMembers : ∀ type, type ∈ types ↔ type ∈ others) :
    sortedUnion settings types = sortedUnion settings others := by
  have othersToldApart : ToldApart settings others := by
    intro left leftMember right rightMember
    exact toldApart left ((sameMembers left).mpr leftMember) right ((sameMembers right).mpr rightMember)
  have irreflexive :
      Std.Irrefl fun earlier later : TypeExpr => earlier.render settings < later.render settings :=
    ⟨fun type => lt_irrefl (type.render settings)⟩
  have antisymmetric :
      Std.Antisymm fun earlier later : TypeExpr => earlier.render settings < later.render settings :=
    ⟨fun earlier later less greater => absurd (less.trans greater) (lt_irrefl _)⟩
  have sameVariants : sortedByText settings types = sortedByText settings others := by
    apply (pairwise_sortedByText settings types).eq_of_mem_iff (pairwise_sortedByText settings others)
    intro type
    rw [toldApart.mem_sortedByText_iff, othersToldApart.mem_sortedByText_iff, sameMembers]
  rw [TypeExpr.sortedUnion_eq, TypeExpr.sortedUnion_eq, sameVariants]

end ToldApart

section Image

variable {image : TypeExpr → TypeExpr} {textImage : String → String} (increasing : StrictMono textImage)
  (texts : ∀ type ∈ types, (image type).render settings = textImage (type.render settings))
include texts

theorem texts_map :
    (types.map image).map (fun type => (type.render settings, type)) =
      (types.map fun type => (type.render settings, type)).map (Prod.map textImage image) := by
  rw [List.map_map, List.map_map]
  apply List.map_congr_left
  intro type member
  exact Prod.ext (texts type member) rfl

include increasing

/-- Images of types are chosen like the types if a map that keeps the order of texts makes their texts. -/
theorem distinctByText_map : distinctByText settings (types.map image) = (distinctByText settings types).map image := by
  have kept (entries : List (String × TypeExpr)) :
      keepFirst (fun left right => left.1 == right.1) (entries.map (Prod.map textImage image)) =
        (keepFirst (fun left right => left.1 == right.1) entries).map (Prod.map textImage image) := by
    apply keepFirst_map
    intro left right
    rw [Prod.map_fst, Prod.map_fst, Bool.eq_iff_iff, beq_iff_eq, beq_iff_eq, increasing.injective.eq_iff]
  rw [distinctByText, distinctByText, texts_map texts, kept, List.map_map, List.map_map]
  rfl

theorem sortedByText_map : sortedByText settings (types.map image) = (sortedByText settings types).map image := by
  rw [sortedByText, sortedByText, texts_map texts, TextIndex.ofList_map increasing, List.map_map, List.map_map]
  rfl

end Image

theorem Represents.ne_nil {variants : List TypeExpr} (represents : Represents settings variants types)
    (nonempty : types ≠ []) : variants ≠ [] := by
  obtain ⟨first, others, rfl⟩ := List.exists_cons_of_ne_nil nonempty
  obtain ⟨variant, member, -⟩ := represents.exists_mem first List.mem_cons_self
  exact List.ne_nil_of_mem member

/-- The union of some types is one of them or has all of them for members. -/
theorem unionOf_cases (members : List TypeExpr) (depth : Int) (multiline : Bool) :
    (∃ member, members = [member] ∧ unionOf members depth multiline = member) ∨
      (members.length ≠ 1 ∧ unionOf members depth multiline = .union members depth multiline) := by
  match members with
  | [] => exact .inr ⟨by simp, rfl⟩
  | [member] => exact .inl ⟨member, rfl, rfl⟩
  | first :: second :: others => exact .inr ⟨by simp, rfl⟩

theorem unionOf_of_length_ne_one {members : List TypeExpr} (several : members.length ≠ 1) :
    unionOf members = .union members 0 false := by
  obtain ⟨only, rfl, -⟩ | ⟨-, same⟩ := unionOf_cases members 0 false
  · exact absurd rfl several
  · exact same

end TypeExpr

end SampleTypes
