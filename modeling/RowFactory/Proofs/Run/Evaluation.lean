import Mathlib.Data.List.Forall2
import RowFactory.Proofs.Ascending
import RowFactory.Run.Function

/-! # Evaluation of generated code

What the expressions and statements that builders are made of come to, each by the values of its parts.
-/

namespace RowFactory.Run

open Code
open Rows (Datum Defaults Row Persister)

variable {σ : Type}

@[simp] theorem Frame.scope_cons (name : String) (v : Value σ) (frame : Frame σ) :
    Frame.scope ((name, .value v) :: frame) = (name, v) :: frame.scope := rfl

theorem lookup_members (columns : List (String × Datum)) (column : String) :
    (Value.members (σ := σ) columns).lookup column = (columns.lookup column).map fun d => .present (.datum d) :=
  Ascending.lookup_map (fun d => Value.present (σ := σ) (.datum d)) columns column

theorem pairwise_members {columns : List (String × Datum)} (h : columns.Pairwise fun a b => a.1 < b.1) :
    (Value.members (σ := σ) columns).Pairwise fun a b => a.1 < b.1 :=
  List.pairwise_map.mpr h

variable (calls : Calls σ) (scope : Scope σ)

attribute [local simp] value values

theorem value_none : value calls scope (.var "None") = some .absent := by
  rw [Expr.var, value]
  rfl

theorem value_var {name : Ident} (h : name.name ≠ "None") :
    value calls scope (.var name) = scope.lookup name.name := by
  rw [Expr.var, value, plainNames, List.map_cons, List.map_nil, constant]
  simpa using h

@[simp] theorem value_self : value calls scope .self = scope.lookup "self" :=
  value_var calls scope (by decide)

theorem values_var {names : List Ident} {vs : List (Value σ)}
    (h : List.Forall₂ (fun name v => name.name ≠ "None" ∧ scope.lookup name.name = some v) names vs) :
    values calls scope (names.map .var) = some vs := by
  induction h with
  | nil => rw [List.map_nil, values]
  | cons hName _ ih =>
    rw [List.map_cons, values, value_var calls scope hName.1, hName.2, ih]
    rfl

@[simp] theorem value_field (base : Expr) (name : Ident) :
    value calls scope (.field base name) = value calls scope base >>= Value.member? name.name := by
  simp

@[simp] theorem value_into (receiver : Expr) (types : List Ty) :
    value calls scope (.method receiver "into" types []) = value calls scope receiver := by
  simp

@[simp] theorem value_some (e : Expr) :
    value calls scope (.call (.var "Some") [e]) = (value calls scope e).map .present := by
  rw [Expr.var, value, values, values]
  cases value calls scope e <;> rfl

theorem value_get (receiver : Expr) (types : List Ty) (key : String) :
    value calls scope (.method receiver "get" types [.text key]) =
      value calls scope receiver >>= associatedRow types key := by
  simp

theorem value_or_else_absent {receiver : Expr} (h : value calls scope receiver = some .absent) (types : List Ty)
    (braced : Bool) (body : Expr) :
    value calls scope (.method receiver "or_else" types [.closure [] braced body]) = value calls scope body := by
  rw [value, h]

theorem value_or_else_present {receiver : Expr} {v : Value σ} (h : value calls scope receiver = some (.present v))
    (types : List Ty) (braced : Bool) (body : Expr) :
    value calls scope (.method receiver "or_else" types [.closure [] braced body]) = some (.present v) := by
  rw [value, h]

theorem value_and_then_absent {receiver : Expr} (h : value calls scope receiver = some .absent) (types : List Ty)
    (name : Ident) (braced : Bool) (body : Expr) :
    value calls scope (.method receiver "and_then" types [.closure [name] braced body]) = some .absent := by
  rw [value, h]

theorem value_and_then_present {receiver : Expr} {v : Value σ} (h : value calls scope receiver = some (.present v))
    (types : List Ty) (name : Ident) (braced : Bool) (body : Expr) :
    value calls scope (.method receiver "and_then" types [.closure [name] braced body]) =
      value calls ((name.name, v) :: scope) body := by
  rw [value, h]

theorem value_record {path : Path} {fields : List (Ident × Expr)} {members : List (String × Value σ)}
    (h : fieldValues calls scope [] fields = some members) :
    value calls scope (.record path fields false) = some (.object (.ofPath path) members) := by
  rw [value, if_neg Bool.false_ne_true]
  simp only [h, Option.bind_eq_bind, Option.bind_some, Option.pure_def]

theorem value_filledRecord {path : Path} {fields : List (Ident × Expr)} {members : List (String × Value σ)}
    (h : fieldValues calls scope (Value.members calls.defaults.columns) fields = some members) :
    value calls scope (.record path fields true) = some (.object (.ofPath path) members) := by
  rw [value, if_pos rfl]
  simp only [h, Option.bind_eq_bind, Option.bind_some, Option.pure_def]

@[simp] theorem value_default : value calls scope (.call (.names ["Default", "default"]) []) =
    some (.object .unit (Value.members calls.defaults.columns)) := by
  rw [Expr.names, value, values]
  rfl

/-- The members of a record are what its expressions come to, or else those of its base. -/
theorem exists_fieldValues {base : List (String × Value σ)} (hBase : base.Pairwise fun a b => a.1 < b.1)
    {fields : List (Ident × Expr)} (hValue : ∀ field ∈ fields, (value calls scope field.2).isSome) :
    ∃ members, fieldValues calls scope base fields = some members ∧
      (members.Pairwise fun a b => a.1 < b.1) ∧
      ∀ column, members.lookup column =
        match fields.find? (·.1.name = column) with
        | some field => value calls scope field.2
        | none => base.lookup column := by
  induction fields with
  | nil => exact ⟨base, rfl, hBase, fun _ => rfl⟩
  | cons field rest ih =>
    obtain ⟨members, hMembers, hAscending, hLookup⟩ := ih fun other h => hValue other (List.mem_cons_of_mem field h)
    obtain ⟨v, hv⟩ := Option.isSome_iff_exists.mp (hValue field List.mem_cons_self)
    refine ⟨Ascending.put field.1.name v members, ?_, Ascending.pairwise_put hAscending, fun column => ?_⟩
    · rw [fieldValues, hv, hMembers]
      rfl
    · rw [Ascending.lookup_put, hLookup]
      by_cases hName : field.1.name = column
      · simp [hName, hv]
      · simp [hName, Ne.symm hName]

variable {calls} {frame : Frame σ}

theorem perform_assign {target e : Expr} {name : String} {members : List String} {v root old new : Value σ}
    (hPlace : place? target = some (name, members)) (hValue : value calls frame.scope e = some v)
    (hRoot : frame.scope.lookup name = some root) (hOld : root.at? members = some old)
    (hNew : Value.replaceAt v members root = some new) :
    perform calls frame (.assign target e) = pure (frame.set name new) := by
  simp only [perform, hValue, changeAt, hPlace, hRoot, hOld, pure_bind, hNew]

theorem changeAt_eq {target : Expr} {name : String} {members : List String} {root old : Value σ}
    {put : Value σ → Value σ} (hPlace : place? target = some (name, members))
    (hRoot : frame.scope.lookup name = some root) (hOld : root.at? members = some old)
    (hNew : ∀ new, Value.replaceAt new members root = some (put new)) (change : Value σ → Action σ (Value σ)) :
    changeAt target change frame = change old >>= fun new => pure (frame.set name (put new)) := by
  simp only [changeAt, hPlace, hRoot, hOld, hNew]

theorem runBody_give {e : Expr} {v : Value σ} (h : value calls frame.scope e = some v) (rest : List Stmt) :
    runBody calls frame (.give e :: rest) = pure (v, frame) := by
  rw [runBody, h]

theorem runBody_bind {e : Expr} {v : Value σ} (h : value calls frame.scope e = some v) (mutable : Bool) (name : Ident)
    (rest : List Stmt) :
    runBody calls frame (.bind mutable name e :: rest) = runBody calls (frame.set name.name v) rest := by
  simp only [runBody, h]

theorem runBody_run {e : Expr} {changed : Frame σ} (h : perform calls frame e = pure changed)
    (rest : List Stmt) : runBody calls frame (.run e :: rest) = runBody calls changed rest := by
  rw [runBody, h, pure_bind]

theorem runBody_run_bind {α : Type} {e : Expr} {x : Action σ α} {change : α → Frame σ}
    (h : perform calls frame e = x >>= fun a => pure (change a)) (rest : List Stmt) :
    runBody calls frame (.run e :: rest) = x >>= fun a => runBody calls (change a) rest := by
  rw [runBody, h, bind_assoc]
  simp only [pure_bind]

theorem perform_call {callee : Expr} {change : Value σ → Action σ (Value σ)}
    (h : argument? frame callee = some (.block change)) (target : Expr) :
    perform calls frame (.call callee [.borrow target]) = changeAt target change frame := by
  simp only [perform, h]

theorem perform_setPersister {e : Expr} {persister : Persister σ Row}
    (h : argument? frame e = some (.persister persister)) (target : Expr) (types : List Ty) :
    perform calls frame (.method target "set_persister" types [e]) =
      changeAt target (setPersister persister) frame := by
  simp only [perform, h]

theorem perform_associate {e : Expr} {make : Action σ Row} (h : argument? frame e = some (.row make)) (target : Expr)
    (types : List Ty) (key : String) :
    perform calls frame (.method target "associate_with_persist" types [.text key, e]) =
      changeAt target (associate key make) frame := by
  simp only [perform, h]

/-- Statements that only compute give their result whatever else a function does. -/
theorem runBody_of_bodyValue {body : List Stmt} {v : Value σ} (h : bodyValue calls frame.scope body = some v) :
    ∃ after, runBody calls frame body = pure (v, after) := by
  induction body generalizing frame with
  | nil => cases h
  | cons stmt rest ih =>
    cases stmt with
    | bind mutable name e =>
      obtain ⟨first, hFirst, hRest⟩ := Option.bind_eq_some_iff.mp h
      obtain ⟨after, hAfter⟩ : ∃ after, runBody calls (frame.set name.name first) rest = pure (v, after) := ih hRest
      exact ⟨after, (runBody_bind hFirst mutable name rest).trans hAfter⟩
    | give e =>
      cases rest with
      | nil => exact ⟨frame, runBody_give h []⟩
      | cons _ _ => cases h
    | run e => cases h
    | each name e body => cases h

theorem startFrame_eq {f : Function} {names : List String} {v : Value σ} {arguments : List (Argument σ)}
    (hReceiver : f.signature.receiver.isSome) (hNames : f.signature.parameters.map (·.1.name) = names)
    (hLength : names.length = arguments.length) :
    startFrame f (some v) arguments = some (("self", .value v) :: names.zip arguments) := by
  obtain ⟨receiver, hReceiver⟩ := Option.isSome_iff_exists.mp hReceiver
  have hCount : ¬ f.signature.parameters.length ≠ arguments.length := by
    rw [← hLength, ← hNames, List.length_map]
    exact fun h => h rfl
  rw [startFrame, if_neg hCount, hReceiver, ← hNames]

theorem startFrame_free {f : Function} {arguments : List (Argument σ)} (hReceiver : f.signature.receiver = none)
    (hLength : f.signature.parameters.length = arguments.length) :
    startFrame f none arguments = some ((f.signature.parameters.map (·.1.name)).zip arguments) := by
  rw [startFrame, if_neg (fun h => h hLength), hReceiver]

theorem functionValue_free {f : Function} {body : List Stmt} {arguments : List (Value σ)} {start : Frame σ}
    (hBody : f.body = some body) (hReceiver : f.signature.receiver = none)
    (hStart : startFrame f none (arguments.map .value) = some start) :
    functionValue calls f arguments = bodyValue calls start.scope body := by
  simp only [functionValue, hBody, hReceiver, hStart, Option.bind_eq_bind, Option.bind_some]

theorem functionValue_self {f : Function} {body : List Stmt} {v : Value σ} {start : Frame σ}
    (hBody : f.body = some body) (hReceiver : f.signature.receiver.isSome)
    (hStart : startFrame f (some v) [] = some start) :
    functionValue calls f [v] = bodyValue calls start.scope body := by
  obtain ⟨receiver, hReceiver⟩ := Option.isSome_iff_exists.mp hReceiver
  simp only [functionValue, hBody, hReceiver, List.map_nil, hStart, Option.bind_eq_bind, Option.bind_some]

theorem callsOf_eq {items : List Item} {d : Defaults} {depth : Nat} {type : Ty} {name : String}
    {arguments : List (Value σ)} {m : Method} {v : Value σ} (hMethod : method? items type name = some m)
    (hValue : functionValue (callsOf items d depth) m.function arguments = some v) :
    (callsOf items d (depth + 1)).function (some type) name arguments = some (m.stamp v) := by
  simp only [callsOf, hMethod, hValue, Option.bind_eq_bind, Option.bind_some, Option.pure_def]

@[simp] theorem defaults_callsOf (items : List Item) (d : Defaults) (depth : Nat) :
    (callsOf (σ := σ) items d depth).defaults = d := by
  cases depth <;> rfl

theorem callMethod_eq {items : List Item} {d : Defaults} {type : Ty} {name : String} {self? : Option (Value σ)}
    {arguments : List (Argument σ)} {m : Method} {body : List Stmt} {start frame : Frame σ} {result : Value σ}
    (hMethod : method? items type name = some m) (hBody : m.function.body = some body)
    (hStart : startFrame m.function self? arguments = some start)
    (hRun : runBody (callsOf items d callDepth) start body = pure (result, frame)) :
    callMethod items d type name self? arguments = pure (m.stamp result, frame.scope.lookup "self") := by
  simp only [callMethod, hMethod, hBody, hStart, hRun, pure_bind]

end RowFactory.Run
