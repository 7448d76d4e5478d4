import RowFactory.Fixtures.Tables
import RowFactory.Proofs.Rows.Calls
import RowFactory.Proofs.Run.BlockFactories

/-! # Foreign keys of generated builders

A reference that a block leaves unset becomes the key of the row that is associated with its column, whatever the
block does and in whatever order.
-/

namespace RowFactory.Run

open Code
open Metadata (Table ForeignKey Package)
open Factory (Plan)
open Rows (Datum Defaults Row Context)

variable {σ : Type} {t : Table} {package : Package} {p : Plan}

theorem wanted_congr {own : String → Option Datum} {c after : Context σ Row} {column : String}
    (h : after.row? column = c.row? column) :
    Contents.wanted t package ⟨own, after⟩ column = Contents.wanted t package ⟨own, c⟩ column := by
  simp only [Contents.wanted, Contents.associated, h]

/-- The method of a reference keeps a row where `build` looks for it. -/
structure Associates (σ : Type) (t : Table) (package : Package) (g : Program) (key : ForeignKey) : Prop where
  /-- The method and `build` have the same key and the same type of row. -/
  written : ∃ a, a.Planned package key ∧
    Offers (Factory.blockUnit g.plan) g.plan.contextTy (Factory.associationSignature a)
      [.run (.method .self "associate_with_persist" [] [.text a.field, .var "block"])] ∧
    ∃ f ∈ g.plan.fields, f.name = key.field ∧ Factory.keyLocal f a ∈ Factory.buildBody g.plan
  /-- It hides no method of the context itself. -/
  visible : key.singularName ∉ Factory.contextMethods
  /-- It keeps the row that is made for it, and no other column is affected. -/
  stores : ∀ (make : Action σ Row) (c : Context σ Row) (world last : σ) (v : Value σ),
    ((Entry.method key.singularName make).apply g (.context c)).run world = (some v, last) →
      ∃ row between after, make.run world = (some row, between) ∧
        (c.associate key.field row).run between = (after, last) ∧ v = .context after ∧
        (after.row? key.field).isSome ∧
        ∀ own column, column ≠ key.field →
          Contents.wanted t package ⟨own, after⟩ column = Contents.wanted t package ⟨own, c⟩ column

theorem associates (h : Usable t package p) (d : Defaults) {key : ForeignKey} (hKey : key ∈ t.foreignKeys) :
    Associates σ t package ⟨p, d⟩ key := by
  obtain ⟨a, ha, hPlanned, hAssociation⟩ := h.exists_association hKey
  refine ⟨⟨a, hPlanned, offers_association h.wellNamed h.nodup_methods ha, ?_⟩, ?_, ?_⟩
  · obtain ⟨f, hf, hName⟩ := exists_field h (h.fields key hKey)
    refine ⟨f, hf, hName, List.mem_append_left _ (List.mem_filterMap.mpr ⟨f, hf, ?_⟩)⟩
    rw [Factory.keyLocal?, hName, hAssociation, Option.map_some]
  · rw [← hPlanned.method]
    exact h.methods a ha
  · intro make c world last v hRun
    have hApply := apply_method (d := d) h.wellNamed h.nodup_methods ha make c
    rw [hPlanned.method, hPlanned.field] at hApply
    rw [hApply, run_bind] at hRun
    cases hMake : make.run world with
    | mk result between =>
      rw [hMake] at hRun
      cases result with
      | none => cases hRun
      | some row =>
        cases hAssociate : (c.associate key.field row).run between with
        | mk after final =>
          dsimp only at hRun
          rw [run_bind, run_lift, hAssociate] at hRun
          cases hRun
          obtain ⟨hKept, hOther⟩ := Rows.Context.row?_associate hAssociate
          exact ⟨row, between, after, rfl, hAssociate, rfl, hKept,
            fun own column hColumn => wanted_congr (hOther column hColumn)⟩

def posts : Table where
  name := "posts"
  required := ["user_id", "title"]
  optional := ["category_id"]
  foreignKeys := [.between "user_id" "users", .between "category_id" "categories"]

def drafts : Defaults where
  columns := [("published", .flag false)]

def authorAndCategory : List (Operation Unit) :=
  [.associate [.method "user" (pure ⟨.ofNames false ["crate", "records", "UsersRecord"], [("id", .integer 7)]⟩)],
    .assign "category_id" (.present (.datum (.integer 3)))]

theorem authorAndCategory_fits : ∀ o ∈ authorAndCategory, o.Fits posts := by
  intro o ho
  rcases List.mem_cons.mp ho with rfl | ho
  · refine ⟨by decide, fun e he => ?_⟩
    obtain rfl := List.mem_singleton.mp he
    exact ⟨.between "user_id" "users", by decide +kernel, by decide +kernel⟩
  · obtain rfl := List.mem_singleton.mp ho
    exact ⟨by decide +kernel, some (.integer 3), rfl⟩

/-- Posts with a column that is named like the constant that a new builder has for a reference. -/
def nonePosts : Table where
  name := "posts"
  required := ["user_id", "None"]
  foreignKeys := [.between "user_id" "users"]

theorem uncallable_nonePosts : nonePosts.validate = .ok () ∧
    ∃ p, Plan.ofTable nonePosts Fixtures.package {} = .ok p ∧ Uncallable (Factory.blockUnit p) := by
  have hValid : nonePosts.validate = .ok () := Metadata.Table.validate_eq_ok_iff.mpr (by decide +kernel)
  obtain ⟨p, hPlan⟩ : ∃ p, Plan.ofTable nonePosts Fixtures.package {} = .ok p :=
    Results.exists_eq_ok (by decide +kernel)
  refine ⟨hValid, p, hPlan, uncallable_of_not_wellNamed fun hNames => ?_⟩
  have hAvoids := (wellNamed_blockUnit_iff (Plan.drafted (Plan.ofTable_eq_ok.mp hPlan).1)
    (Plan.keyed_of_ofTable hValid hPlan)).mp hNames
  exact hAvoids.parameters "None" (by decide +kernel) (by decide)

end RowFactory.Run
