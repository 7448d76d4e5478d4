import RowFactory.Proofs.Ascending
import RowFactory.Proofs.Run.BlockLookup

/-! # What calls of a builder do

Calls that change a builder change only its association context, and `build` takes the columns of its record
from the builder's members and from the context.
-/

namespace RowFactory.Run

open Code
open Factory (Plan Association associationsField)
open Rows (Defaults Row Context Persister)

variable {σ : Type} {p : Plan} {d : Defaults}

/-- A function that changes something as its first statement does no more if the rest only gives a result. -/
theorem changeBy_eq {type : Ty} {signature : Signature} {e : Expr} {rest : List Stmt}
    (h : Offers (Factory.blockUnit p) type signature (.run e :: rest)) (hReceiver : signature.receiver.isSome)
    {arguments : List (Argument σ)} {start : Frame σ} {v : Value σ}
    (hLength : signature.parameters.length = arguments.length)
    (hStart : start = ("self", .value v) :: (signature.parameters.map (·.1.name)).zip arguments)
    {x : Action σ (Value σ)}
    (hPerform : perform (callsOf (Factory.blockUnit p) d callDepth) start e =
      x >>= fun new => pure (start.set "self" new))
    (hRest : ∀ new, ∃ result, runBody (callsOf (Factory.blockUnit p) d callDepth) (start.set "self" new) rest =
      pure (result, start.set "self" new)) :
    changeBy ⟨p, d⟩ type signature.name.name arguments v = x := by
  obtain ⟨f, hMethod, rfl, hBody⟩ := h
  have hFrame : startFrame f (some v) arguments = some start := by
    rw [hStart]
    exact startFrame_eq hReceiver rfl (by simpa using hLength)
  choose result hResult using hRest
  have hSelf (new : Value σ) : (Frame.set start "self" new).scope.lookup "self" = some new := rfl
  simp only [changeBy, callMethod, hMethod, hBody, hFrame, runBody, hPerform, bind_assoc, pure_bind, hResult, hSelf,
    bind_pure]

theorem runBody_giveSelf (calls : Calls σ) (frame : Frame σ) (new : Value σ) :
    ∃ result, runBody calls (frame.set "self" new) [.give .self] = pure (result, frame.set "self" new) :=
  ⟨new, runBody_give (value_self _ _) []⟩

def withContext (type : Ty) (members : List (String × Value σ)) (context : Value σ) : Value σ :=
  .object type (Ascending.put associationsField context members)

theorem changeAt_context {frame : Frame σ} {type : Ty} {members : List (String × Value σ)} {context : Value σ}
    (hSelf : frame.scope.lookup "self" = some (.object type members))
    (hContext : members.lookup associationsField = some context) (change : Value σ → Action σ (Value σ)) :
    changeAt (.field .self associationsField) change frame =
      change context >>= fun new => pure (frame.set "self" (withContext type members new)) := by
  have hPlace : place? (.field .self associationsField) = some ("self", [associationsField]) := rfl
  refine changeAt_eq hPlace hSelf ?_ (fun new => rfl) change
  rw [Value.at?, Value.member?, hContext]
  rfl

theorem apply_associate (hNames : WellNamed (Factory.blockUnit p)) (h : p.hasAssociations) {type : Ty}
    {members : List (String × Value σ)} {context : Value σ}
    (hContext : members.lookup associationsField = some context) (entries : List (Entry σ)) :
    (Operation.associate entries).apply ⟨p, d⟩ (.object type members) =
      entries.foldlM (fun v e => e.apply ⟨p, d⟩ v) context >>= fun new => pure (withContext type members new) := by
  refine changeBy_eq (offers_associate hNames h) rfl rfl rfl ?_ (runBody_giveSelf _ _)
  rw [perform_call rfl, changeAt_context rfl hContext]
  simp only [bind_assoc, pure_bind]

theorem apply_persistWith (hNames : WellNamed (Factory.blockUnit p)) (h : p.hasAssociations) {type : Ty}
    {members : List (String × Value σ)} {context : Context σ Row}
    (hContext : members.lookup associationsField = some (.context context)) (persister : Persister σ Row) :
    (Operation.persistWith persister).apply ⟨p, d⟩ (.object type members) =
      OptionT.lift (context.setPersister persister) >>= fun new => pure (withContext type members (.context new)) := by
  refine changeBy_eq (offers_persistWith hNames h) rfl rfl rfl ?_ (runBody_giveSelf _ _)
  rw [perform_setPersister rfl, changeAt_context rfl hContext]
  simp only [setPersister, bind_assoc, pure_bind]

theorem apply_method (hNames : WellNamed (Factory.blockUnit p)) (h : (p.associations.map (·.method.name)).Nodup)
    {a : Association} (ha : a ∈ p.associations) (make : Action σ Row) (context : Context σ Row) :
    (Entry.method a.method.name make).apply ⟨p, d⟩ (.context context) =
      make >>= fun row => OptionT.lift (context.associate a.field row) >>= fun new => pure (.context new) := by
  refine changeBy_eq (offers_association hNames h ha) rfl rfl rfl ?_ fun new => ⟨.unit, rfl⟩
  rw [perform_associate rfl, changeAt_eq rfl rfl rfl fun new => rfl]
  simp only [associate, bind_assoc]

end RowFactory.Run
