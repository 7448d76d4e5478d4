import RowFactory.Fixtures.Tables
import RowFactory.Proofs.Factory.Plans
import RowFactory.Proofs.Generation.Records
import RowFactory.Proofs.Metadata.Extraction

/-! # References between tables

A table names the rows that it refers to as the other table names its own, whether references are declared or
inferred. So the method that builds a referenced row is called as the factory function of the other table, and both
give a record of one type; the types are one path whenever the modules of records are found in one index.
-/

namespace RowFactory.Generation

open Source (Declaration Index)

variable {options : Options} {index : Index} {d : Declaration} {t : Metadata.Table}
  {package : Metadata.Package} {warnings : List String}

/-- The record of a table, and every record that it refers to, is taken where the index has it first. -/
theorem packageOf_eq_ok (h : packageOf options index d t = .ok (package, warnings)) :
    (index.modulesOf t.recordTypeName).head? = some package.recordModule ∧
      ∀ key ∈ t.foreignKeys, (index.modulesOf key.recordType).head? = some (package.moduleOf key.recordType) := by
  have hLocated := located_of_packageOf h
  exact ⟨hLocated.own, fun key hKey => hLocated.moduleOf_eq hKey⟩

theorem names_of_mem_foreignKeys {catalog : Schema.Catalog} {name : String} {key : Metadata.ForeignKey}
    (h : key ∈ (Metadata.ofName catalog name).foreignKeys) :
    key.singularName = (Metadata.ofName catalog key.table).singularName ∧
      key.recordType = (Metadata.ofName catalog key.table).recordTypeName := by
  have hKey : key = ⟨key.field, key.table, recordTypeName key.table, catalog.singular? key.table⟩ := by
    rw [Metadata.ofName] at h
    split at h
    · exact Metadata.eq_of_mem_foreignKeysOf h
    · cases h
  rw [Metadata.Table.singularName, Metadata.Table.recordTypeName, Metadata.name_ofName, Metadata.singular_ofName,
    Metadata.ForeignKey.singularName, hKey]
  exact ⟨rfl, rfl⟩

/-- The method of an association is called as a factory function, and the callback that it takes gives what the
function gives. -/
def Mirrors (a : Factory.Association) (f : Code.Function) : Prop :=
  (Factory.associationSignature a).name = f.signature.name ∧
    (Factory.associationSignature a).parameters.map (·.2) = [.satisfying (.callOnce [] f.signature.output) false]

/-- Every foreign key has the names that the metadata of its table have. When both tables have plans, its method has
the name of the factory function of the other table, and the callback gives a record of the type that this function
gives, each in the module that its package knows. If the packages agree on the module, as they do whenever they are
made from one index, the method mirrors the function. -/
theorem associations_mirror_factories (catalog : Schema.Catalog) (name : String) {i : Nat} {key : Metadata.ForeignKey}
    (hKey : (Metadata.ofName catalog name).foreignKeys[i]? = some key) :
    let t := Metadata.ofName catalog name
    let other := Metadata.ofName catalog key.table
    (key.singularName = other.singularName ∧ key.recordType = other.recordTypeName) ∧
    (∀ (package otherPackage : Metadata.Package) (options otherOptions : Options) (p q : Factory.Plan),
      Factory.Plan.ofTable t package options = .ok p → Factory.Plan.ofTable other otherPackage otherOptions = .ok q →
      ∃ a f, p.associations[i]? = some a ∧ a.field = key.field ∧ .function f ∈ Factory.factoryItems q ∧
        (Factory.associationSignature a).name = q.factory ∧ f.signature.name = q.factory ∧
        Code.Path.ofType (package.moduleOf other.recordTypeName) other.recordTypeName = .ok a.record ∧
        Code.Path.ofType otherPackage.recordModule other.recordTypeName = .ok q.record ∧
        (package.moduleOf other.recordTypeName = otherPackage.recordModule → Mirrors a f)) ∧
    ∀ (index : Index) (options otherOptions : Options) (d e : Declaration) (package otherPackage : Metadata.Package)
      (warnings otherWarnings : List String),
      packageOf options index d t = .ok (package, warnings) →
      packageOf otherOptions index e other = .ok (otherPackage, otherWarnings) →
      package.moduleOf other.recordTypeName = otherPackage.recordModule := by
  intro t other
  have hMem : key ∈ t.foreignKeys := List.mem_of_getElem? hKey
  have hNames : key.singularName = other.singularName ∧ key.recordType = other.recordTypeName :=
    names_of_mem_foreignKeys hMem
  refine ⟨hNames, ?_, ?_⟩
  · intro package otherPackage options otherOptions p q hPlan hOther
    have hDrafted := Factory.Plan.drafted (Factory.Plan.ofTable_eq_ok.mp hPlan).1
    have hOtherDrafted := Factory.Plan.drafted (Factory.Plan.ofTable_eq_ok.mp hOther).1
    obtain ⟨a, hAt, hAssociation⟩ := Results.exists_getElem? hDrafted.associations hKey
    obtain ⟨method, hMethod, hAssociation⟩ := Results.bind_eq_ok.mp hAssociation
    obtain ⟨record, hRecord, hAssociation⟩ := Results.bind_eq_ok.mp hAssociation
    cases hAssociation
    rw [hNames.2] at hRecord
    have hName : method = q.factory := by
      have hFactory := Code.ident_eq_ok.mp hOtherDrafted.factory
      rw [← hNames.1, Code.ident_eq_ok.mp hMethod] at hFactory
      exact Option.some.inj hFactory
    refine ⟨_, _, hAt, rfl, List.mem_cons_self, hName, rfl, hRecord, hOtherDrafted.record, fun hModule => ?_⟩
    rw [hModule, hOtherDrafted.record] at hRecord
    cases hRecord
    exact ⟨hName, rfl⟩
  · intro index options otherOptions d e package otherPackage warnings otherWarnings hPackage hOther
    have hModule := (packageOf_eq_ok hPackage).2 key hMem
    rw [hNames.2, (packageOf_eq_ok hOther).1] at hModule
    exact (Option.some.inj hModule).symm

theorem comments_mirror_users :
    ∃ p q a f, Factory.Plan.ofTable (Metadata.ofName Fixtures.catalog "comments") Fixtures.package {} = .ok p ∧
      Factory.Plan.ofTable (Metadata.ofName Fixtures.catalog "users") Fixtures.package {} = .ok q ∧
      p.associations[1]? = some a ∧ .function f ∈ Factory.factoryItems q ∧ f.signature.name = q.factory ∧
      Mirrors a f := by
  have hKey : (Metadata.ofName Fixtures.catalog "comments").foreignKeys[1]? = some (.between "user_id" "users") := by
    decide +kernel
  obtain ⟨p, hPlan⟩ :
      ∃ p, Factory.Plan.ofTable (Metadata.ofName Fixtures.catalog "comments") Fixtures.package {} = .ok p :=
    Results.exists_eq_ok (by decide +kernel)
  obtain ⟨q, hOther⟩ :
      ∃ q, Factory.Plan.ofTable (Metadata.ofName Fixtures.catalog "users") Fixtures.package {} = .ok q :=
    Results.exists_eq_ok (by decide +kernel)
  obtain ⟨_, hPlans, _⟩ := associations_mirror_factories Fixtures.catalog "comments" hKey
  obtain ⟨a, f, hAt, _, hFunction, _, hName, _, _, hMirrors⟩ := hPlans _ _ _ _ p q hPlan hOther
  exact ⟨p, q, a, f, hPlan, hOther, hAt, hFunction, hName, hMirrors (by decide +kernel)⟩

end RowFactory.Generation
