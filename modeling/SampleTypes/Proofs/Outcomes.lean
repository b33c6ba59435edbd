import Mathlib.Data.List.Forall2

/-!
# Outcomes of several steps

How a sequence of steps that may fail ends.  A sequence succeeds with what its steps yield, and fails with
the fault of one of its steps, so both outcomes can be traced back to single steps.
-/

namespace List

variable {α β : Type}

/-- Each item on the left has a partner on the right. -/
theorem Forall₂.exists_right {related : α → β → Prop} {lefts : List α} {rights : List β}
    (pairs : Forall₂ related lefts rights) {left : α} (member : left ∈ lefts) :
    ∃ right ∈ rights, related left right := by
  induction pairs with
  | nil => cases member
  | @cons head partner _ _ headRelated _ induction =>
      rcases List.mem_cons.mp member with rfl | later
      · exact ⟨partner, by simp, headRelated⟩
      · obtain ⟨right, rightMember, tailRelated⟩ := induction later
        exact ⟨right, by simp [rightMember], tailRelated⟩

/-- Each item on the right has a partner on the left. -/
theorem Forall₂.exists_left {related : α → β → Prop} {lefts : List α} {rights : List β}
    (pairs : Forall₂ related lefts rights) {right : β} (member : right ∈ rights) :
    ∃ left ∈ lefts, related left right :=
  pairs.flip.exists_right member

section Members

variable {items others : List α} (same : ∀ item, item ∈ items ↔ item ∈ others)
include same

theorem isEmpty_eq_of_mem_iff : items.isEmpty = others.isEmpty := by
  rw [Bool.eq_iff_iff, isEmpty_iff, isEmpty_iff, eq_nil_iff_forall_not_mem, eq_nil_iff_forall_not_mem]
  simp only [same]

theorem all_eq_of_mem_iff (test : α → Bool) : items.all test = others.all test := by
  rw [Bool.eq_iff_iff, all_eq_true, all_eq_true]
  simp only [same]

end Members

end List

namespace SampleTypes.Outcome

variable {α β ε : Type}

theorem bind_eq_ok_iff {first : Except ε α} {next : α → Except ε β} {result : β} :
    (first >>= next) = .ok result ↔ ∃ middle, first = .ok middle ∧ next middle = .ok result := by
  cases first with
  | error fault => simp [bind, Except.bind]
  | ok middle => simp [bind, Except.bind]

theorem bind_eq_error_iff {first : Except ε α} {next : α → Except ε β} {fault : ε} :
    (first >>= next) = .error fault ↔
      first = .error fault ∨ ∃ middle, first = .ok middle ∧ next middle = .error fault := by
  cases first with
  | error other => simp [bind, Except.bind]
  | ok middle => simp [bind, Except.bind]

/-- Two sequences agree if they begin alike and go on alike from every outcome of the beginning. -/
theorem bind_congr {first : Except ε α} {left right : α → Except ε β}
    (agree : ∀ middle, first = .ok middle → left middle = right middle) :
    (first >>= left) = (first >>= right) := by
  cases first with
  | error fault => rfl
  | ok middle => exact agree middle rfl

theorem mapM_eq_ok_iff {step : α → Except ε β} {items : List α} {results : List β} :
    items.mapM step = .ok results ↔
      List.Forall₂ (fun item result => step item = .ok result) items results := by
  induction items generalizing results with
  | nil =>
      rw [List.mapM_nil, List.forall₂_nil_left_iff]
      exact ⟨fun equal => (Except.ok.inj equal).symm, fun equal => congrArg Except.ok equal.symm⟩
  | cons item items induction =>
      rw [List.mapM_cons, bind_eq_ok_iff]
      constructor
      · rintro ⟨result, itemResult, rest⟩
        obtain ⟨others, itemsResult, equal⟩ := bind_eq_ok_iff.mp rest
        cases equal
        exact .cons itemResult (induction.mp itemsResult)
      · intro related
        cases related with
        | @cons _ result _ others itemResult itemsResult =>
            refine ⟨result, itemResult, ?_⟩
            rw [induction.mpr itemsResult]
            rfl

/-- A sequence fails with the fault of its first step that fails; the steps before it succeed. -/
theorem exists_first_of_mapM_eq_error {step : α → Except ε β} {items : List α} {fault : ε}
    (failed : items.mapM step = .error fault) :
    ∃ earlier item later, items = earlier ++ item :: later ∧
      (∀ before ∈ earlier, ∃ result, step before = .ok result) ∧ step item = .error fault := by
  induction items with
  | nil => cases failed
  | cons item items induction =>
      rw [List.mapM_cons, bind_eq_error_iff] at failed
      rcases failed with itemFailed | ⟨result, succeeded, rest⟩
      · exact ⟨[], item, items, rfl, List.forall_mem_nil _, itemFailed⟩
      · rcases bind_eq_error_iff.mp rest with itemsFailed | ⟨others, _, impossible⟩
        · obtain ⟨earlier, failing, later, rfl, succeed, fails⟩ := induction itemsFailed
          have allSucceed := List.forall_mem_cons.mpr ⟨⟨result, succeeded⟩, succeed⟩
          exact ⟨item :: earlier, failing, later, rfl, allSucceed, fails⟩
        · cases impossible

theorem mapM_eq_error {step : α → Except ε β} {items : List α} {fault : ε}
    (failed : items.mapM step = .error fault) : ∃ item ∈ items, step item = .error fault := by
  obtain ⟨earlier, item, later, rfl, -, itemFailed⟩ := exists_first_of_mapM_eq_error failed
  exact ⟨item, List.mem_append_right earlier List.mem_cons_self, itemFailed⟩

theorem mapM_congr {left right : α → Except ε β} {items : List α}
    (agree : ∀ item ∈ items, left item = right item) : items.mapM left = items.mapM right := by
  induction items with
  | nil => rfl
  | cons item items induction =>
      rw [List.mapM_cons, List.mapM_cons, agree item (by simp),
        induction fun other member => agree other (by simp [member])]

section Image

variable {γ δ : Type} (image : β → γ)

theorem map_bind {first : Except ε α} {next : α → Except ε β} :
    (first >>= next).map image = first >>= fun middle => (next middle).map image := by
  cases first <;> rfl

theorem bind_map {first : Except ε β} {next : γ → Except ε δ} :
    (first.map image >>= next) = first >>= fun middle => next (image middle) := by
  cases first <;> rfl

theorem mapM_map {step : α → Except ε β} {items : List α} :
    (items.mapM fun item => (step item).map image) = (items.mapM step).map (List.map image) := by
  induction items with
  | nil => rfl
  | cons item items induction =>
      rw [List.mapM_cons, List.mapM_cons, induction, bind_map, map_bind]
      apply bind_congr
      intro result _
      rw [bind_map, map_bind]
      rfl

/-- Steps that yield images of what other steps yield end in an image if what is made of the images is one. -/
theorem mapM_bind_eq_map {items : List α} {step : α → Except ε β} {imageStep : α → Except ε γ}
    {next : List β → Except ε δ} {imageNext : List γ → Except ε δ} {resultImage : δ → δ}
    (each : ∀ item ∈ items, imageStep item = (step item).map image)
    (agree : ∀ results, items.mapM step = .ok results →
      imageNext (results.map image) = (next results).map resultImage) :
    (items.mapM imageStep >>= imageNext) = (items.mapM step >>= next).map resultImage := by
  rw [mapM_congr each, mapM_map, bind_map, map_bind]
  exact bind_congr agree

/-- Steps whose results have the same images end in results with the same images if what follows keeps it so. -/
theorem bind_map_congr {left right : Except ε β} {leftNext rightNext : β → Except ε α} {resultImage : α → δ}
    (agree : left.map image = right.map image)
    (next : ∀ first second, left = .ok first → right = .ok second → image first = image second →
      (leftNext first).map resultImage = (rightNext second).map resultImage) :
    (left >>= leftNext).map resultImage = (right >>= rightNext).map resultImage := by
  cases left with
  | error fault =>
      cases right with
      | error other =>
          cases agree
          rfl
      | ok second => cases agree
  | ok first =>
      cases right with
      | error other => cases agree
      | ok second => exact next first second rfl rfl (Except.ok.inj agree)

theorem mapM_map_congr {left right : α → Except ε β} {items : List α}
    (agree : ∀ item ∈ items, (left item).map image = (right item).map image) :
    (items.mapM left).map (List.map image) = (items.mapM right).map (List.map image) := by
  rw [← mapM_map, ← mapM_map]
  exact mapM_congr agree

end Image

/-- Two outcomes agree if both are faults, whatever these are, or both are results and the results are related. -/
inductive Agree (related : α → β → Prop) : Except ε α → Except ε β → Prop
  | ok {left : α} {right : β} (results : related left right) : Agree related (.ok left) (.ok right)
  | error (left right : ε) : Agree related (.error left) (.error right)

section Agree

variable {γ δ : Type} {related : α → β → Prop} {relatedNext : γ → δ → Prop}

theorem agree_self {outcome : Except ε α} : Agree Eq outcome outcome := by
  cases outcome with
  | ok result => exact .ok rfl
  | error fault => exact .error fault fault

theorem Agree.imp {left : Except ε α} {right : Except ε β} {other : α → β → Prop}
    (agree : Agree related left right) (weaker : ∀ first second, related first second → other first second) :
    Agree other left right := by
  cases agree with
  | ok results => exact .ok (weaker _ _ results)
  | error fault otherFault => exact .error fault otherFault

theorem Agree.exists_right {left : Except ε α} {right : Except ε β} (agree : Agree related left right)
    {result : α} (success : left = .ok result) : ∃ other, right = .ok other ∧ related result other := by
  cases agree with
  | ok results =>
      cases success
      exact ⟨_, rfl, results⟩
  | error fault otherFault => cases success

theorem Agree.exists_left {left : Except ε α} {right : Except ε β} (agree : Agree related left right)
    {result : β} (success : right = .ok result) : ∃ other, left = .ok other ∧ related other result := by
  cases agree with
  | ok results =>
      cases success
      exact ⟨_, rfl, results⟩
  | error fault otherFault => cases success

theorem Agree.results_or_faults {left : Except ε α} {right : Except ε β} (agree : Agree related left right) :
    (∃ result other, left = .ok result ∧ right = .ok other ∧ related result other) ∨
      ∃ fault otherFault, left = .error fault ∧ right = .error otherFault := by
  cases agree with
  | ok results => exact .inl ⟨_, _, rfl, rfl, results⟩
  | error fault otherFault => exact .inr ⟨fault, otherFault, rfl, rfl⟩

theorem Agree.trans {similar : α → α → Prop} [IsTrans α similar] {left middle right : Except ε α}
    (first : Agree similar left middle) (second : Agree similar middle right) : Agree similar left right := by
  cases first with
  | ok results =>
      cases second with
      | ok others => exact .ok (trans_of similar results others)
  | error fault otherFault =>
      cases second with
      | error _ last => exact .error fault last

/-- Outcomes that agree go on to outcomes that agree. -/
theorem Agree.bind {left : Except ε α} {right : Except ε β} {leftNext : α → Except ε γ}
    {rightNext : β → Except ε δ} (agree : Agree related left right)
    (next : ∀ first second, left = .ok first → right = .ok second → related first second →
      Agree relatedNext (leftNext first) (rightNext second)) :
    Agree relatedNext (left >>= leftNext) (right >>= rightNext) := by
  cases agree with
  | ok results => exact next _ _ rfl rfl results
  | error fault otherFault => exact .error fault otherFault

theorem mapM_agree {items : List γ} {left : γ → Except ε α} {right : γ → Except ε β}
    (each : ∀ item ∈ items, Agree related (left item) (right item)) :
    Agree (List.Forall₂ related) (items.mapM left) (items.mapM right) := by
  induction items with
  | nil => exact .ok .nil
  | cons item items induction =>
      rw [List.mapM_cons, List.mapM_cons]
      apply (each item List.mem_cons_self).bind
      intro first second _ _ results
      apply (induction fun other member => each other (List.mem_cons_of_mem _ member)).bind
      intro firsts seconds _ _ others
      exact .ok (.cons results others)

/-- Steps taken in another order yield the same results in another order, or one of them still fails. -/
theorem mapM_agree_of_perm {items others : List γ} {step : γ → Except ε α} (perm : items.Perm others) :
    Agree List.Perm (items.mapM step) (others.mapM step) := by
  induction perm with
  | nil => exact .ok .nil
  | cons item _ induction =>
      rw [List.mapM_cons, List.mapM_cons]
      apply agree_self.bind
      rintro result _ _ _ rfl
      apply induction.bind
      intro results otherResults _ _ permuted
      exact .ok (permuted.cons result)
  | swap first second items =>
      simp only [List.mapM_cons]
      cases step first with
      | error fault =>
          cases step second with
          | error other => exact .error other fault
          | ok result => exact .error fault fault
      | ok firstResult =>
          cases step second with
          | error fault => exact .error fault fault
          | ok secondResult =>
              cases items.mapM step with
              | error fault => exact .error fault fault
              | ok results => exact .ok (.swap firstResult secondResult results)
  | trans _ _ first second => exact first.trans second

/-- Each item on one side has a partner on the other side. -/
def Matched (related : α → β → Prop) (lefts : List α) (rights : List β) : Prop :=
  (∀ left ∈ lefts, ∃ right ∈ rights, related left right) ∧ ∀ right ∈ rights, ∃ left ∈ lefts, related left right

theorem mapM_eq_ok_of_forall {items : List γ} {step : γ → Except ε α}
    (each : ∀ item ∈ items, ∃ result, step item = .ok result) : ∃ results, items.mapM step = .ok results := by
  cases outcome : items.mapM step with
  | ok results => exact ⟨results, rfl⟩
  | error fault =>
      obtain ⟨item, member, failed⟩ := mapM_eq_error outcome
      obtain ⟨result, success⟩ := each item member
      cases success.symm.trans failed

/-- Whether all steps succeed, and with what results, does not depend on the order and repetition of the
items. -/
theorem mapM_agree_of_mem_iff {items others : List γ} {left : γ → Except ε α} {right : γ → Except ε β}
    (same : ∀ item, item ∈ items ↔ item ∈ others)
    (each : ∀ item ∈ items, Agree related (left item) (right item)) :
    Agree (Matched related) (items.mapM left) (others.mapM right) := by
  cases leftOutcome : items.mapM left with
  | ok lefts =>
      have leftEach := mapM_eq_ok_iff.mp leftOutcome
      have rightSucceeds : ∀ item ∈ others, ∃ result, right item = .ok result := by
        intro item member
        have isItem := (same item).mpr member
        obtain ⟨result, -, success⟩ := leftEach.exists_right isItem
        obtain ⟨other, otherSuccess, -⟩ := (each item isItem).exists_right success
        exact ⟨other, otherSuccess⟩
      obtain ⟨rights, rightOutcome⟩ := mapM_eq_ok_of_forall rightSucceeds
      have rightEach := mapM_eq_ok_iff.mp rightOutcome
      rw [rightOutcome]
      refine .ok ⟨?_, ?_⟩
      · intro result member
        obtain ⟨item, isItem, success⟩ := leftEach.exists_left member
        obtain ⟨other, otherSuccess, results⟩ := (each item isItem).exists_right success
        obtain ⟨partner, partnerMember, partnerSuccess⟩ := rightEach.exists_right ((same item).mp isItem)
        cases otherSuccess.symm.trans partnerSuccess
        exact ⟨other, partnerMember, results⟩
      · intro result member
        obtain ⟨item, isOther, success⟩ := rightEach.exists_left member
        have isItem := (same item).mpr isOther
        obtain ⟨other, otherSuccess, results⟩ := (each item isItem).exists_left success
        obtain ⟨partner, partnerMember, partnerSuccess⟩ := leftEach.exists_right isItem
        cases otherSuccess.symm.trans partnerSuccess
        exact ⟨other, partnerMember, results⟩
  | error fault =>
      cases rightOutcome : others.mapM right with
      | error otherFault => exact .error fault otherFault
      | ok rights =>
          have leftSucceeds : ∀ item ∈ items, ∃ result, left item = .ok result := by
            intro item isItem
            obtain ⟨result, -, success⟩ := (mapM_eq_ok_iff.mp rightOutcome).exists_right ((same item).mp isItem)
            obtain ⟨other, otherSuccess, -⟩ := (each item isItem).exists_left success
            exact ⟨other, otherSuccess⟩
          obtain ⟨lefts, success⟩ := mapM_eq_ok_of_forall leftSucceeds
          cases leftOutcome.symm.trans success

/-- Steps that are taken again yield what they have yielded before. -/
theorem mapM_agree_append {items repeated : List γ} (isRepeated : repeated ⊆ items) (step : γ → Except ε α) :
    Agree (fun results all => ∃ more, more ⊆ results ∧ all = results ++ more) (items.mapM step)
      ((items ++ repeated).mapM step) := by
  rw [List.mapM_append]
  cases success : items.mapM step with
  | error fault => exact .error fault fault
  | ok results =>
      have yielded := mapM_eq_ok_iff.mp success
      have again : ∀ item ∈ repeated, ∃ result ∈ results, step item = .ok result :=
        fun item member => yielded.exists_right (isRepeated member)
      obtain ⟨more, moreSuccess⟩ := mapM_eq_ok_of_forall fun item member =>
        (again item member).imp fun _ known => known.2
      rw [moreSuccess]
      refine .ok ⟨more, ?_, rfl⟩
      intro result member
      obtain ⟨item, isItem, itemYields⟩ := (mapM_eq_ok_iff.mp moreSuccess).exists_left member
      obtain ⟨known, knownMember, knownYields⟩ := again item isItem
      cases itemYields.symm.trans knownYields
      exact knownMember

end Agree

section Same

variable {γ δ : Type}

/-- Two outcomes are the same fault, or both are results and the results are related. -/
inductive Same (related : α → β → Prop) : Except ε α → Except ε β → Prop
  | ok {left : α} {right : β} (results : related left right) : Same related (.ok left) (.ok right)
  | error (fault : ε) : Same related (.error fault) (.error fault)

theorem Same.bind {related : α → β → Prop} {relatedNext : γ → δ → Prop} {left : Except ε α} {right : Except ε β}
    {leftNext : α → Except ε γ} {rightNext : β → Except ε δ} (same : Same related left right)
    (next : ∀ first second, related first second → Same relatedNext (leftNext first) (rightNext second)) :
    Same relatedNext (left >>= leftNext) (right >>= rightNext) := by
  cases same with
  | ok results => exact next _ _ results
  | error fault => exact .error fault

theorem Same.bind_eq {related : α → β → Prop} {left : Except ε α} {right : Except ε β}
    {leftNext : α → Except ε γ} {rightNext : β → Except ε γ} (same : Same related left right)
    (next : ∀ first second, related first second → leftNext first = rightNext second) :
    (left >>= leftNext) = (right >>= rightNext) := by
  cases same with
  | ok results => exact next _ _ results
  | error fault => rfl

theorem Same.imp {related stronger : α → β → Prop} {left : Except ε α} {right : Except ε β}
    (same : Same stronger left right) (weaker : ∀ first second, stronger first second → related first second) :
    Same related left right := by
  cases same with
  | ok results => exact .ok (weaker _ _ results)
  | error fault => exact .error fault

theorem mapM_same {related : γ → δ → Prop} {items : List α} {others : List β} {left : α → Except ε γ}
    {right : β → Except ε δ}
    (each : List.Forall₂ (fun item other => Same related (left item) (right other)) items others) :
    Same (List.Forall₂ related) (items.mapM left) (others.mapM right) := by
  induction each with
  | nil => exact .ok .nil
  | cons same _ induction =>
      rw [List.mapM_cons, List.mapM_cons]
      apply same.bind
      intro first second results
      apply induction.bind
      intro firsts seconds others
      exact .ok (.cons results others)

theorem mapM_eq_of_forall₂ {items : List α} {others : List β} {left : α → Except ε γ} {right : β → Except ε γ}
    (each : List.Forall₂ (fun item other => left item = right other) items others) :
    items.mapM left = others.mapM right := by
  induction each with
  | nil => rfl
  | cons same _ induction => rw [List.mapM_cons, List.mapM_cons, same, induction]

end Same

end SampleTypes.Outcome
