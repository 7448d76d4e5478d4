import RowFactory.Fixtures.Tables
import RowFactory.Proofs.Code.Documentation
import RowFactory.Proofs.Factory.Places
import RowFactory.Proofs.Results

/-! # The switch of the documentation

Whether a table has a plan does not depend on the switch. With the switch off, every generator leaves out the
documentation and nothing else, so that its tokens are those with the documentation taken out, unless documentation
comes with a path of the package.
-/

namespace RowFactory.Factory

open Code

def Plan.undocumented (p : Plan) : Plan := { p with docs := false }

section Plans

variable (t : Metadata.Table) (package : Metadata.Package)

theorem map_bind {ε α β γ : Type} (step : Except ε α) (next : α → Except ε β) (f : β → γ) :
    (step >>= next).map f = step >>= fun a => (next a).map f := by
  cases step <;> rfl

theorem map_draft (docs : Bool) :
    (Plan.draft t package docs).map Plan.undocumented = Plan.draft t package false := by
  simp only [Plan.draft, map_bind]
  rfl

/-- The switch decides neither whether there is a plan nor what is wrong. -/
theorem map_ofTable (options : Generation.Options) :
    (Plan.ofTable t package options).map Plan.undocumented = Plan.ofTable t package { options with docs := false } := by
  have hDraft := map_draft t package options.docs
  rw [Plan.ofTable, Plan.ofTable, ← hDraft, map_bind]
  cases Plan.draft t package options.docs with
  | error e => rfl
  | ok p =>
    have hCollision : p.undocumented.collision? = p.collision? := rfl
    simp only [Except.map, bind, Except.bind]
    rw [hCollision]
    cases p.collision? <;> rfl

end Plans

inductive Generator where
  | states
  | stateBuilder
  | stateUnit
  | blockBuilder
  | factories
  | associations
  | blockUnit
  deriving DecidableEq, Repr

namespace Generator

def items : Generator → Plan → List Item
  | .states => stateItems
  | .stateBuilder => stateBuilderItems
  | .stateUnit => Factory.stateUnit
  | .blockBuilder => blockBuilderItems
  | .factories => factoryItems
  | .associations => associationItems
  | .blockUnit => Factory.blockUnit

/-- The paths that come from the package. -/
def paths (g : Generator) (p : Plan) : List Path :=
  match g with
  | .states => []
  | .stateBuilder | .stateUnit | .factories => [p.record]
  | .blockBuilder | .blockUnit => p.record :: p.runtime :: p.associations.map (·.record)
  | .associations => if p.hasAssociations then p.record :: p.runtime :: p.associations.map (·.record) else []

end Generator

theorem undocumentedAll_sealed (p : Plan) : Item.undocumentedAll (sealedItems p) = sealedItems p := by
  rw [sealedItems]
  cases p.markers with
  | nil => rfl
  | cons marker rest =>
    simp only [Item.undocumentedAll_eq_map, List.map_append, List.map_map]
    rfl

theorem undocumentedAll_states (p : Plan) : Item.undocumentedAll (stateItems p) = stateItems p.undocumented := by
  have hMarkers : (p.requiredFields.filterMap (markerItem p)).map Item.undocumented =
      p.requiredFields.filterMap (markerItem p.undocumented) := by
    rw [List.map_filterMap]
    congr 1
    funext field
    rw [markerItem, markerItem, Option.map_map]
    rfl
  rw [stateItems, stateItems, Item.undocumentedAll_eq_map, List.map_append, List.map_append, hMarkers, List.map_cons,
    Item.undocumented, undocumentedAll_sealed]
  rfl

theorem setters_undocumented (p : Plan) (slot : Nat) (fields : List Field) :
    (setters p slot fields).map Function.undocumented = setters p.undocumented slot fields := by
  induction fields generalizing slot with
  | nil => rfl
  | cons field rest ih =>
    rw [setters, setters]
    cases field.marker with
    | none => exact congrArg _ (ih slot)
    | some marker => exact congrArg _ (ih (slot + 1))

theorem undocumentedAll_stateBuilder (p : Plan) :
    Item.undocumentedAll (stateBuilderItems p) = stateBuilderItems p.undocumented := by
  simp only [stateBuilderItems, Item.undocumentedAll, Item.undocumented, setters_undocumented]
  rfl

theorem undocumentedAll_blockBuilder (p : Plan) :
    Item.undocumentedAll (blockBuilderItems p) = blockBuilderItems p.undocumented := by
  have hAssociate : (if p.hasAssociations then associateFunctions p else []).map Function.undocumented =
      if p.undocumented.hasAssociations then associateFunctions p.undocumented else [] := by
    rw [apply_ite (List.map Function.undocumented)]
    rfl
  simp only [blockBuilderItems, Item.undocumentedAll, Item.undocumented, List.map_append, hAssociate]
  rfl

theorem undocumentedAll_factories (p : Plan) :
    Item.undocumentedAll (factoryItems p) = factoryItems p.undocumented := rfl

theorem undocumentedAll_associations (p : Plan) :
    Item.undocumentedAll (associationItems p) = associationItems p.undocumented := by
  have hSame : p.undocumented.associations = p.associations := rfl
  rw [associationItems, associationItems, hSame]
  cases p.associations with
  | nil => rfl
  | cons a rest =>
    simp only [Item.undocumentedAll, Item.undocumented, List.map_map]
    rfl

def plainAttributes : List String := ["must_use", "derive(Debug)", "derive(Debug, Clone, Copy, Default)"]

theorem docsBegin_plainAttributes : ∀ text ∈ plainAttributes, docsBegin (attributeTokens text) = false := by
  decide +kernel

section Attributes

variable {p : Plan}

theorem attributesOfAll_sealed : Item.attributesOfAll (sealedItems p) = [] := by
  rw [sealedItems]
  cases p.markers with
  | nil => rfl
  | cons marker rest => simp [Item.attributesOfAll_eq_flatMap, Item.attributes]

theorem attributes_states :
    ∀ item ∈ stateItems p, ∀ text ∈ item.attributes, docsBegin (attributeTokens text) = false := by
  have hMarkers : ∀ item ∈ p.requiredFields.filterMap (markerItem p), ∀ text ∈ item.attributes,
      docsBegin (attributeTokens text) = false := by
    intro item hItem
    obtain ⟨field, _, hField⟩ := List.mem_filterMap.mp hItem
    obtain ⟨marker, _, rfl⟩ := Option.map_eq_some_iff.mp hField
    exact List.forall_mem_singleton.mpr (docsBegin_plainAttributes _ (by decide))
  rw [stateItems]
  refine List.forall_mem_append.mpr ⟨List.forall_mem_append.mpr ⟨?_, hMarkers⟩, ?_⟩
  · simp [Item.attributes, attributesOfAll_sealed]
  · simp [Item.attributes]

theorem attributes_stateBuilder :
    ∀ item ∈ stateBuilderItems p, ∀ text ∈ item.attributes, docsBegin (attributeTokens text) = false := by
  simp [stateBuilderItems, Item.attributes, docsBegin_plainAttributes "must_use" (by decide)]

theorem attributes_blockBuilder :
    ∀ item ∈ blockBuilderItems p, ∀ text ∈ item.attributes, docsBegin (attributeTokens text) = false := by
  simp [blockBuilderItems, Item.attributes, docsBegin_plainAttributes "derive(Debug)" (by decide)]

theorem attributes_factories :
    ∀ item ∈ factoryItems p, ∀ text ∈ item.attributes, docsBegin (attributeTokens text) = false := by
  simp [factoryItems, Item.attributes]

theorem attributes_associations :
    ∀ item ∈ associationItems p, ∀ text ∈ item.attributes, docsBegin (attributeTokens text) = false := by
  rw [associationItems]
  split <;> simp [Item.attributes]

end Attributes

namespace Generator

theorem undocumentedAll_items (g : Generator) (p : Plan) :
    Item.undocumentedAll (g.items p) = g.items p.undocumented := by
  have hAppend (first second : List Item) : Item.undocumentedAll (first ++ second) =
      Item.undocumentedAll first ++ Item.undocumentedAll second := by
    simp only [Item.undocumentedAll_eq_map, List.map_append]
  cases g with
  | states => exact undocumentedAll_states p
  | stateBuilder => exact undocumentedAll_stateBuilder p
  | stateUnit =>
    simp only [items, Factory.stateUnit, hAppend, undocumentedAll_states, undocumentedAll_stateBuilder]
  | blockBuilder => exact undocumentedAll_blockBuilder p
  | factories => exact undocumentedAll_factories p
  | associations => exact undocumentedAll_associations p
  | blockUnit =>
    simp only [items, Factory.blockUnit, hAppend, undocumentedAll_blockBuilder, undocumentedAll_factories,
      undocumentedAll_associations]

theorem attributes_items (g : Generator) (p : Plan) :
    ∀ item ∈ g.items p, ∀ text ∈ item.attributes, docsBegin (attributeTokens text) = false := by
  cases g with
  | states => exact attributes_states
  | stateBuilder => exact attributes_stateBuilder
  | stateUnit => exact List.forall_mem_append.mpr ⟨attributes_states, attributes_stateBuilder⟩
  | blockBuilder => exact attributes_blockBuilder
  | factories => exact attributes_factories
  | associations => exact attributes_associations
  | blockUnit =>
    exact List.forall_mem_append.mpr
      ⟨List.forall_mem_append.mpr ⟨attributes_blockBuilder, attributes_factories⟩, attributes_associations⟩

theorem each_blockBuilder_bareAt {p : Plan} (hp : p.NamesTypes) (h : ∀ path ∈ blockBuilder.paths p, path.IsBare) :
    ∀ item ∈ blockBuilderItems p, item.Each bareAt := by
  obtain ⟨hRecord, hRuntime, hAssociations⟩ := by simpa [paths] using h
  refine (each_blockBuilder allowsNames_bareAt hp).mpr ⟨hRecord, hRecord, hRuntime.append _, ?_, fun _ => ?_⟩
  · exact fun f _ a ha => hAssociations a (List.mem_of_find?_eq_some ha)
  · exact ⟨hRuntime.append _, (hRuntime.append _).append _, hRuntime.append _⟩

theorem each_associations_bareAt {p : Plan} (hp : p.NamesTypes) (h : ∀ path ∈ associations.paths p, path.IsBare) :
    ∀ item ∈ associationItems p, item.Each bareAt := by
  refine (each_associations allowsNames_bareAt hp).mpr ?_
  by_cases hSome : p.hasAssociations
  · obtain ⟨hRecord, hRuntime, hAssociations⟩ := by simpa [paths, hSome] using h
    exact ⟨fun _ => ⟨hRuntime.append _, hRecord⟩, hAssociations⟩
  · have hNone : p.associations = [] := by simpa [Plan.hasAssociations] using hSome
    exact ⟨fun h => absurd h hSome, by simp [hNone]⟩

theorem each_items_bareAt (g : Generator) {p : Plan} (hp : p.NamesTypes) (h : ∀ path ∈ g.paths p, path.IsBare) :
    ∀ item ∈ g.items p, item.Each bareAt := by
  have hStates := each_states allowsNames_bareAt hp
  have hStateBuilder := (each_stateBuilder allowsNames_bareAt hp).mpr
  have hFactories := (each_factories allowsNames_bareAt hp).mpr
  cases g with
  | states => exact hStates
  | stateBuilder => exact hStateBuilder (h p.record List.mem_cons_self)
  | stateUnit => exact List.forall_mem_append.mpr ⟨hStates, hStateBuilder (h p.record List.mem_cons_self)⟩
  | factories => exact hFactories (h p.record List.mem_cons_self)
  | blockBuilder => exact each_blockBuilder_bareAt hp h
  | associations => exact each_associations_bareAt hp h
  | blockUnit =>
    have hAssociations : ∀ path ∈ associations.paths p, path.IsBare := by
      rw [paths]
      split
      · exact h
      · exact fun _ hPath => absurd hPath List.not_mem_nil
    exact List.forall_mem_append.mpr ⟨List.forall_mem_append.mpr ⟨each_blockBuilder_bareAt hp h,
      hFactories (h p.record List.mem_cons_self)⟩, each_associations_bareAt hp hAssociations⟩

end Generator

/-- With the documentation on and off, a table has no plan for the same reason, or it has one both times, and then each
generator drops attributes of documentation and nothing else. If none begins in a path of the package that the
generator takes over, what is left is what is left without all of them, and there are none. -/
theorem tokens_without_docs (t : Metadata.Table) (package : Metadata.Package) (options : Generation.Options) :
    (∃ e, Plan.ofTable t package { options with docs := true } = .error e ∧
        Plan.ofTable t package { options with docs := false } = .error e) ∨
      ∃ p q, Plan.ofTable t package { options with docs := true } = .ok p ∧
        Plan.ofTable t package { options with docs := false } = .ok q ∧ ∀ g : Generator,
          Drops (Item.tokensOfAll (g.items p)) (Item.tokensOfAll (g.items q)) ∧
          ((∀ path ∈ g.paths q, path.IsBare) →
            withoutDocs none (Item.tokensOfAll (g.items p)) = Item.tokensOfAll (g.items q) ∧
              docsBegin (Item.tokensOfAll (g.items q)) = false) := by
  have hPlain := map_ofTable t package { options with docs := true }
  rw [← hPlain]
  cases hPlan : Plan.ofTable t package { options with docs := true } with
  | error e => exact .inl ⟨e, rfl, rfl⟩
  | ok p =>
    refine .inr ⟨p, p.undocumented, rfl, rfl, fun g => ?_⟩
    have hDrops := Item.drops_tokensOfAll (g.items p)
    rw [g.undocumentedAll_items] at hDrops
    refine ⟨hDrops, fun hPaths => ?_⟩
    have hNames := (Plan.drafted (Plan.ofTable_eq_ok.mp hPlan).1).namesTypes
    have hBare := Item.docsBegin_undocumentedAll (g.items p)
      (Item.eachOfAll_iff.mpr (g.each_items_bareAt hNames hPaths))
      (Item.attributesOfAll_iff.mpr (g.attributes_items p))
    rw [g.undocumentedAll_items] at hBare
    exact ⟨hDrops.withoutDocs_eq hBare, hBare⟩

theorem tokens_without_docs_comments :
    ∃ p q, Plan.ofTable (Metadata.ofName Fixtures.catalog "comments") Fixtures.package { docs := true } = .ok p ∧
      Plan.ofTable (Metadata.ofName Fixtures.catalog "comments") Fixtures.package { docs := false } = .ok q ∧
      (∀ path ∈ Generator.blockUnit.paths q, path.IsBare) ∧
      withoutDocs none (Item.tokensOfAll (blockUnit p)) = Item.tokensOfAll (blockUnit q) ∧
      docsBegin (Item.tokensOfAll (blockUnit q)) = false := by
  have hPaths : ∀ q ∈ (Plan.ofTable (Metadata.ofName Fixtures.catalog "comments") Fixtures.package
      { docs := false }).toOption, ∀ path ∈ Generator.blockUnit.paths q, path.IsBare := by
    decide +kernel
  rcases tokens_without_docs (Metadata.ofName Fixtures.catalog "comments") Fixtures.package {} with
    ⟨e, _, hError⟩ | ⟨p, q, hp, hq, hGenerators⟩
  · have hSome : (Plan.ofTable (Metadata.ofName Fixtures.catalog "comments") Fixtures.package
        { docs := false }).toOption.isSome := by decide +kernel
    rw [hError] at hSome
    cases hSome
  · rw [hq] at hPaths
    have hBare := hPaths q rfl
    exact ⟨p, q, hp, hq, hBare, (hGenerators .blockUnit).2 hBare⟩

/-- Records in a module whose path has documentation among its arguments. -/
def documentedPackage : Metadata.Package := { Fixtures.package with recordModule := "a<m![#[doc = \"x\"]]>" }

/-- Documentation in a path of the package is taken out of what there is with the documentation, but it stays where
the switch is off. -/
theorem docs_in_path_stay :
    ∃ p q, Plan.ofTable (Metadata.ofName Fixtures.catalog "users") documentedPackage { docs := true } = .ok p ∧
      Plan.ofTable (Metadata.ofName Fixtures.catalog "users") documentedPackage { docs := false } = .ok q ∧
      withoutDocs none (Item.tokensOfAll (stateBuilderItems p)) ≠ Item.tokensOfAll (stateBuilderItems q) ∧
      (Item.tokensOfAll (stateBuilderItems q)).tails.any (beginsWith docSigns) := by
  obtain ⟨p, hp⟩ : ∃ p, Plan.ofTable (Metadata.ofName Fixtures.catalog "users") documentedPackage { docs := true } =
      .ok p := Results.exists_eq_ok (by decide +kernel)
  have hq : Plan.ofTable (Metadata.ofName Fixtures.catalog "users") documentedPackage { docs := false } =
      .ok p.undocumented := by
    rw [← map_ofTable _ _ { docs := true }, hp]
    rfl
  have hStays : ∀ p ∈ (Plan.ofTable (Metadata.ofName Fixtures.catalog "users") documentedPackage
      { docs := true }).toOption,
      withoutDocs none (Item.tokensOfAll (stateBuilderItems p)) ≠
          Item.tokensOfAll (stateBuilderItems p.undocumented) ∧
        (Item.tokensOfAll (stateBuilderItems p.undocumented)).tails.any (beginsWith docSigns) := by
    decide +kernel
  rw [hp] at hStays
  exact ⟨p, p.undocumented, hp, hq, hStays p rfl⟩

end RowFactory.Factory
