/-
Labels of disk errors are told apart.

An error of a disk becomes a label when it is said what was being done: the context, a colon
and a blank, and the name of the error. The context is any text at all. It may have a colon
in it, or end like the name of an error, so the label cannot be taken apart from the front.
It can from the back: no name of an error is the end of another one
(`DiskError.eq_of_name_isSuffix`), so the label says by its end which error it is, and what is
left is the context (`DiskError.labelled_inj`). By the same means no label is the one that is
success.

Labels have no condition. So they are compared by their text and by nothing else, and to the
other domains of the family, which could only be met through a condition, they are never equal
(`equals_label_foreign`). That holds for the raw code of the same error as well.
-/
import TaggedStatus.Catalog.Sources
import TaggedStatus.Proofs.Equivalence.Family

set_option autoImplicit false

namespace TaggedStatus.Catalog

/-! ## The text of a label -/

namespace DiskError

/-- No name of an error is the end of the name of another one. -/
theorem eq_of_name_isSuffix {a b : DiskError} (h : a.name.toList <:+ b.name.toList) : a = b := by
  revert h
  cases a <;> cases b <;> decide

theorem toList_labelled (e : DiskError) (context : String) :
    (e.labelled context).toList = context.toList ++ ": ".toList ++ e.name.toList := by
  rw [labelled, String.toList_append, String.toList_append]

theorem name_isSuffix_labelled (e : DiskError) (context : String) :
    e.name.toList <:+ (e.labelled context).toList := by
  rw [toList_labelled]
  exact List.suffix_append _ _

/-- **A label says which error it is of and in which context.** -/
theorem labelled_inj {a b : DiskError} {s t : String} :
    a.labelled s = b.labelled t ↔ a = b ∧ s = t := by
  constructor
  · intro h
    have ha : a.name.toList <:+ (a.labelled s).toList := name_isSuffix_labelled a s
    have hb : b.name.toList <:+ (a.labelled s).toList := by
      rw [h]
      exact name_isSuffix_labelled b t
    -- Both names end the same text, so one of them ends the other.
    have hname : a = b := by
      rcases List.suffix_or_suffix_of_suffix ha hb with hab | hba
      · exact eq_of_name_isSuffix hab
      · exact (eq_of_name_isSuffix hba).symm
    subst hname
    rw [labelled, labelled, String.append_left_inj, String.append_left_inj] at h
    exact ⟨rfl, h⟩
  · rintro ⟨rfl, rfl⟩
    rfl

/-- No label of an error is the one that is success. -/
theorem labelled_ne_ok (e : DiskError) (context : String) : e.labelled context ≠ "ok" := by
  intro h
  have hsuffix : e.name.toList <:+ "ok".toList := by
    rw [← h]
    exact name_isSuffix_labelled e context
  revert hsuffix
  cases e <;> decide

/-! ## Failures of labels -/

variable (amb : setting.Ambient) (e : DiskError) (context : String)

theorem success_labelled : (Code.typed label (e.labelled context)).success amb = false :=
  beq_eq_false_iff_ne.mpr (e.labelled_ne_ok context)

/-- The failure that an error becomes when it is said what was being done. -/
def failure : Failure setting (.typed label) where
  code := .typed label (e.labelled context)
  judgedIn := amb
  not_success := e.success_labelled amb context

/-- To make a failure of an error and its context does not end the program. -/
theorem ofSourceWith_eq :
    Failure.ofSourceWith amb (.same (.typed label)) e context
      = ⟨[], .ok (e.failure amb context)⟩ := by
  show Failure.ofCode amb (.typed label (e.labelled context)) = _
  rw [Failure.ofCode_of_not_success amb (e.success_labelled amb context)]
  rfl

end DiskError

/-! ## Comparisons with a label -/

theorem label_mem_family : label ∈ family := .tail _ (.tail _ (.tail _ (.head _)))

variable {amb : setting.Ambient} {depth : Nat} {s t : String} {x y : Operand setting}

/-- A label shares its condition with nothing, since it has none that is known. -/
theorem not_sameCondition_label {other : Face setting} :
    ¬ ((Code.typed label s).face amb).SameCondition other := by
  rintro ⟨-, hknown⟩
  exact hknown rfl

/-- Labels are compared by their text. -/
theorem equals_label_iff (hx : Code.MadeFrom label s x.anyCode.code)
    (hy : Code.MadeFrom label t y.anyCode.code) : x.equals amb depth y = true ↔ s = t := by
  rw [Operand.equals_iff_linked isFamily_family label_mem_family label_mem_family
    (comparesCoherently_of_mem_family amb label_mem_family) hx hy]
  constructor
  · rintro (hvalue | hcondition)
    · exact (sameValue_iff_of_mem_family label_mem_family).mp hvalue
    · exact absurd hcondition not_sameCondition_label
  · intro hst
    exact .inl ((sameValue_iff_of_mem_family label_mem_family).mpr hst)

/-- A label equals no code of another domain of the family, in either order. -/
theorem equals_label_foreign {E : Domain setting} {u : E.Value} (hE : E ∈ family)
    (hid : label.id ≠ E.id) (hx : Code.MadeFrom label s x.anyCode.code)
    (hy : Code.MadeFrom E u y.anyCode.code) :
    x.equals amb depth y = false ∧ y.equals amb depth x = false := by
  have hequals : x.equals amb depth y = false := by
    rw [Bool.eq_false_iff, ne_eq, Operand.equals_iff_linked isFamily_family label_mem_family hE
      (comparesCoherently_of_mem_family amb label_mem_family) hx hy]
    rintro (⟨hsame, -⟩ | hcondition)
    · exact hid (Option.some.inj hsame)
    · exact not_sameCondition_label hcondition
  refine ⟨hequals, ?_⟩
  rw [Operand.equals_comm, hequals]

/-- **Disk errors with a context never end the program and are kept apart.** Whatever the
context is, and whatever the state, making a failure of an error and its context gives the
failure of the label, and nothing is reported. Two of these failures are equal if they are of
the same error in the same context. None of them equals a condition or a raw code, typed or
erased or in a failure, not even the raw code of its own error; and the same the other way
round. -/
theorem disk_errors_kept_apart :
    (∀ (amb : setting.Ambient) (e : DiskError) (context : String),
      Failure.ofSourceWith amb (.same (.typed label)) e context
        = ⟨[], .ok (e.failure amb context)⟩)
    ∧ (∀ (made made' amb : setting.Ambient) (depth : Nat) (a b : DiskError) (s t : String),
        (Operand.failure (a.failure made s)).equals amb depth (.failure (b.failure made' t)) = true
          ↔ a = b ∧ s = t)
    ∧ ∀ (made amb : setting.Ambient) (depth : Nat) (e : DiskError) (context : String),
        let x : Operand setting := .failure (e.failure made context)
        (∀ c : Condition, x.equals amb depth (.condition c) = false
          ∧ (Operand.condition c).equals amb depth x = false)
        ∧ (∀ (n : UInt32) (y : Operand setting), Code.MadeFrom raw n y.anyCode.code →
            x.equals amb depth y = false ∧ y.equals amb depth x = false)
        ∧ let own : Code setting (.typed raw) := IntoCode.code e
          x.equals amb depth (.code own) = false
            ∧ (Operand.code own).equals amb depth x = false := by
  refine ⟨DiskError.ofSourceWith_eq, ?_, ?_⟩
  · intro made made' amb depth a b s t
    rw [← DiskError.labelled_inj]
    exact equals_label_iff .typed .typed
  · intro made amb depth e context x
    have hx : Code.MadeFrom label (e.labelled context) x.anyCode.code := .typed
    refine ⟨?_, ?_, ?_⟩
    · intro c
      exact equals_label_foreign (y := .condition c) generic_mem_family (by decide) hx .typed
    · intro n y hy
      exact equals_label_foreign raw_mem_family (by decide) hx hy
    · exact equals_label_foreign (y := .code (.typed raw e.number)) raw_mem_family (by decide) hx
        .typed

/-- Each of these contexts names the other error, and one has a colon in it as well. The
failures differ, and neither is the raw code of the locked disk, narrowed. -/
theorem disk_errors_kept_apart_crossed :
    let amb : setting.Ambient := .empty
    let locked := DiskError.locked.failure amb "retry: Missing"
    let missing := DiskError.missing.failure amb "Locked"
    let sixteen : Code setting (.erased .w4) :=
      .narrow raw ⟨.uint32, rfl, by decide⟩ (16 : UInt32)
    Failure.ofSourceWith amb (.same (.typed label)) DiskError.locked "retry: Missing"
        = ⟨[], .ok locked⟩
      ∧ locked.code = .typed label "retry: Missing: Locked"
      ∧ (Operand.failure locked).equals amb Catalog.depth (.failure missing) = false
      ∧ (Operand.failure locked).equals amb Catalog.depth (.code sixteen) = false := by
  intro amb locked missing sixteen
  obtain ⟨hmade, happart, hforeign⟩ := disk_errors_kept_apart
  have hdiffer : (Operand.failure locked).equals amb Catalog.depth (.failure missing) = false := by
    rw [Bool.eq_false_iff, ne_eq, happart]
    rintro ⟨hsame, -⟩
    cases hsame
  obtain ⟨-, hraw, -⟩ := hforeign amb amb Catalog.depth .locked "retry: Missing"
  exact ⟨hmade _ _ _, rfl, hdiffer, (hraw 16 (.code sixteen) (.narrow _)).1⟩

end TaggedStatus.Catalog
