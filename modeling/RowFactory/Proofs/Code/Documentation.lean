import Mathlib.Data.List.Basic
import RowFactory.Code.Emission
import RowFactory.Proofs.Code.Places

/-! # Documentation among the tokens of a tree

Taking all attributes of documentation out of the tokens of a tree leaves the tokens of the same tree without its
documentation, as long as no such attribute begins elsewhere: in the arguments of a path, or in another attribute.
-/

namespace RowFactory.Code

def Token.isMark (symbol : Char) : Token → Bool
  | .mark s _ => s = symbol
  | _ => false

def docSigns : List (Token → Bool) := [Token.isMark '#', (· = .opening .bracket), (· = .word "doc"), Token.isMark '=']

def beginsWith : List (Token → Bool) → List Token → Bool
  | [], _ => true
  | _ :: _, [] => false
  | sign :: signs, t :: rest => sign t && beginsWith signs rest

/-- Tokens that are as the signs say, as far as they go. -/
def agreesWith : List (Token → Bool) → List Token → Bool
  | sign :: signs, t :: rest => sign t && agreesWith signs rest
  | _, _ => true

/-- Somewhere among the tokens, an attribute of documentation begins, even if they are over before it has begun in
full. -/
def docsBegin : List Token → Bool
  | [] => false
  | t :: rest => agreesWith docSigns (t :: rest) || docsBegin rest

/-- The tokens without the attributes of documentation. Within such an attribute, `depth` counts the brackets that are
open. -/
def withoutDocs (depth : Option Nat) : List Token → List Token
  | [] => []
  | t :: rest =>
    match depth with
    | none => if beginsWith docSigns (t :: rest) then withoutDocs (some 0) rest else t :: withoutDocs none rest
    | some depth =>
      match t with
      | .opening _ => withoutDocs (some (depth + 1)) rest
      | .closing _ => withoutDocs (if depth ≤ 1 then none else some (depth - 1)) rest
      | _ => withoutDocs (some depth) rest

/-- The second list is the first one without some attributes of documentation. -/
inductive Drops : List Token → List Token → Prop where
  | nil : Drops [] []
  | keep (t : Token) {full plain : List Token} : Drops full plain → Drops (t :: full) (t :: plain)
  | drop (text : String) {full plain : List Token} : Drops full plain → Drops (docTokens (some text) ++ full) plain

section Begins

variable {a b : List Token}

theorem agreesWith_of_append {signs : List (Token → Bool)} (h : agreesWith signs (a ++ b)) : agreesWith signs a := by
  induction a generalizing signs with
  | nil => cases signs <;> rfl
  | cons t a ih =>
    cases signs with
    | nil => rfl
    | cons sign signs =>
      obtain ⟨hSign, hRest⟩ := Bool.and_eq_true_iff.mp h
      exact Bool.and_eq_true_iff.mpr ⟨hSign, ih hRest⟩

/-- No attribute begins across the border, since even the part of it before the border would count. -/
theorem docsBegin_append (ha : docsBegin a = false) (hb : docsBegin b = false) : docsBegin (a ++ b) = false := by
  induction a with
  | nil => exact hb
  | cons t a ih =>
    obtain ⟨hHere, hRest⟩ := Bool.or_eq_false_iff.mp ha
    refine Bool.or_eq_false_iff.mpr ⟨?_, ih hRest⟩
    rw [Bool.eq_false_iff] at hHere ⊢
    exact fun h => hHere (agreesWith_of_append h)

theorem docsBegin_cons {t : Token} (ht : t.isMark '#' = false) (hb : docsBegin b = false) :
    docsBegin (t :: b) = false := by
  rw [docsBegin, hb, Bool.or_false, docSigns, agreesWith, ht, Bool.false_and]

theorem docsBegin_flatMap {α : Type} {list : List α} {f : α → List Token} (h : ∀ x ∈ list, docsBegin (f x) = false) :
    docsBegin (list.flatMap f) = false := by
  induction list with
  | nil => rfl
  | cons x rest ih =>
    rw [List.flatMap_cons]
    exact docsBegin_append (h x List.mem_cons_self) (ih fun y hy => h y (List.mem_cons_of_mem x hy))

theorem docsBegin_grouped (d : Delimiter) (h : docsBegin a = false) : docsBegin (grouped d a) = false :=
  docsBegin_cons rfl (docsBegin_append h (docsBegin_cons rfl rfl))

theorem docsBegin_intercalate {between : List Token} {parts : List (List Token)} (hBetween : docsBegin between = false)
    (h : ∀ part ∈ parts, docsBegin part = false) : docsBegin (between.intercalate parts) = false := by
  induction parts with
  | nil => rfl
  | cons part rest ih =>
    have hPart := h part List.mem_cons_self
    cases rest with
    | nil => rwa [List.intercalate_singleton]
    | cons next others =>
      rw [List.intercalate_cons_cons]
      exact docsBegin_append (docsBegin_append hPart hBetween)
        (ih fun other hOther => h other (List.mem_cons_of_mem part hOther))

theorem docsBegin_commaBetween {parts : List (List Token)} (h : ∀ part ∈ parts, docsBegin part = false) :
    docsBegin (commaBetween parts) = false :=
  docsBegin_intercalate rfl h

theorem docsBegin_commaAfter {parts : List (List Token)} (h : ∀ part ∈ parts, docsBegin part = false) :
    docsBegin (commaAfter parts) = false :=
  docsBegin_flatMap fun part hPart => docsBegin_append (h part hPart) rfl

theorem docsBegin_angled {parts : List (List Token)} (h : ∀ part ∈ parts, docsBegin part = false) :
    docsBegin (angled parts) = false :=
  docsBegin_cons rfl (docsBegin_append (docsBegin_commaBetween h) rfl)

theorem docsBegin_inAngles {parts : List (List Token)} (h : ∀ part ∈ parts, docsBegin part = false) :
    docsBegin (inAngles parts) = false := by
  cases parts with
  | nil => rfl
  | cons part rest => exact docsBegin_angled h

end Begins

section Drops

variable {full plain : List Token}

theorem Drops.refl : (tokens : List Token) → Drops tokens tokens
  | [] => .nil
  | t :: rest => .keep t (.refl rest)

theorem Drops.append {others otherPlain : List Token} (h : Drops full plain) (hOthers : Drops others otherPlain) :
    Drops (full ++ others) (plain ++ otherPlain) := by
  induction h with
  | nil => exact hOthers
  | keep t _ ih => exact .keep t ih
  | drop text _ ih =>
    rw [List.append_assoc]
    exact .drop text ih

theorem Drops.flatMap {α : Type} {f g : α → List Token} (h : ∀ x, Drops (f x) (g x)) :
    (list : List α) → Drops (list.flatMap f) (list.flatMap g)
  | [] => .nil
  | x :: rest => by
    rw [List.flatMap_cons, List.flatMap_cons]
    exact (h x).append (.flatMap h rest)

theorem Drops.grouped (d : Delimiter) (h : Drops full plain) : Drops (grouped d full) (grouped d plain) :=
  .keep _ (h.append (.refl _))

theorem drops_docTokens (doc : Option String) (h : Drops full plain) : Drops (docTokens doc ++ full) plain := by
  cases doc with
  | none => exact h
  | some text => exact .drop text h

/-- Signs that no attribute begins with are found, as far as the tokens go, behind dropped attributes as well. -/
theorem Drops.agreesWith {signs : List (Token → Bool)} (hSigns : ∀ sign ∈ signs, sign (.mark '#' false) = false)
    (h : Drops full plain) (hBegins : beginsWith signs full) : agreesWith signs plain := by
  induction h generalizing signs with
  | nil => cases signs <;> rfl
  | keep t _ ih =>
    cases signs with
    | nil => rfl
    | cons sign signs =>
      obtain ⟨hSign, hRest⟩ := Bool.and_eq_true_iff.mp hBegins
      exact Bool.and_eq_true_iff.mpr
        ⟨hSign, ih (fun other hOther => hSigns other (List.mem_cons_of_mem sign hOther)) hRest⟩
  | drop text _ ih =>
    cases signs with
    | nil => rfl
    | cons sign signs =>
      have hSign : sign (.mark '#' false) := (Bool.and_eq_true_iff.mp hBegins).1
      rw [hSigns sign List.mem_cons_self] at hSign
      cases hSign

/-- Where no documentation begins in what is left, nothing but all the documentation has been dropped. -/
theorem Drops.withoutDocs_eq (h : Drops full plain) (hPlain : docsBegin plain = false) :
    withoutDocs none full = plain := by
  induction h with
  | nil => rfl
  | keep t hDrops ih =>
    obtain ⟨hHere, hRest⟩ := Bool.or_eq_false_iff.mp hPlain
    rw [withoutDocs, if_neg, ih hRest]
    intro hBegins
    obtain ⟨hSign, hSigns⟩ := Bool.and_eq_true_iff.mp hBegins
    exact Bool.eq_false_iff.mp hHere (Bool.and_eq_true_iff.mpr ⟨hSign, hDrops.agreesWith (by decide) hSigns⟩)
  | drop text _ ih => exact ih hPlain

end Drops

/-- No documentation begins in the path. -/
def Path.IsBare (p : Path) : Prop := docsBegin p.tokens = false

instance : DecidablePred Path.IsBare := fun p => inferInstanceAs (Decidable (docsBegin p.tokens = false))

theorem Path.IsPlain.isBare {p : Path} (h : p.IsPlain) : p.IsBare := by
  have hLeading : docsBegin (if p.leading then separator else []) = false := by cases p.leading <;> rfl
  refine docsBegin_append hLeading (docsBegin_intercalate rfl (List.forall_mem_map.mpr fun s hs => ?_))
  rw [Segment.tokens, h s hs]
  rfl

theorem intercalate_cons (between first : List Token) (rest : List (List Token)) :
    between.intercalate (first :: rest) = first ++ rest.flatMap (between ++ ·) := by
  induction rest generalizing first with
  | nil => rw [List.intercalate_singleton, List.flatMap_nil, List.append_nil]
  | cons next others ih => rw [List.intercalate_cons_cons, ih, List.flatMap_cons, List.append_assoc, List.append_assoc]

/-- Names after a path begin no documentation, whatever the path ends with. -/
theorem Path.IsBare.append {p : Path} (h : p.IsBare) (names : List Ident) : (p.append names).IsBare := by
  obtain ⟨leading, segments⟩ := p
  cases segments with
  | nil => exact Path.IsPlain.isBare (List.forall_mem_map.mpr fun _ _ => rfl)
  | cons first rest =>
    have hTokens : (Path.append ⟨leading, first :: rest⟩ names).tokens = Path.tokens ⟨leading, first :: rest⟩ ++
        names.flatMap fun i => separator ++ [.word i.text] := by
      simp only [Path.tokens, Path.append, List.cons_append, List.map_cons, List.map_append, List.map_map,
        intercalate_cons, List.flatMap_append, List.flatMap_map, List.append_assoc]
      rfl
    rw [Path.IsBare, hTokens]
    exact docsBegin_append h (docsBegin_flatMap fun _ _ => rfl)

def bareAt : Place → Path → Prop := fun _ p => p.IsBare

theorem allowsNames_bareAt : AllowsNames bareAt where
  expression := Path.IsPlain.isBare
  type := fun hPlain _ _ => hPlain.isBare

mutual

def Item.attributes : Item → List String
  | .struct _ attributes _ _ _ => attributes
  | .module _ items => Item.attributesOfAll items
  | _ => []

def Item.attributesOfAll : List Item → List String
  | [] => []
  | item :: rest => item.attributes ++ Item.attributesOfAll rest

end

theorem Item.attributesOfAll_eq_flatMap (items : List Item) :
    Item.attributesOfAll items = items.flatMap Item.attributes := by
  induction items with
  | nil => rfl
  | cons item rest ih => rw [Item.attributesOfAll, ih, List.flatMap_cons]

theorem Item.attributesOfAll_iff {items : List Item} {good : String → Prop} :
    (∀ text ∈ Item.attributesOfAll items, good text) ↔ ∀ item ∈ items, ∀ text ∈ item.attributes, good text := by
  rw [Item.attributesOfAll_eq_flatMap, List.forall_mem_flatMap]

mutual

theorem Ty.docsBegin_tokens : (t : Ty) → {place : Place} → t.Each bareAt place → docsBegin t.tokens = false
  | .named _ arguments, _, ⟨hPath, hArguments⟩ =>
    docsBegin_append hPath (docsBegin_inAngles (Ty.docsBegin_tokensOfAll arguments hArguments))
  | .tuple elements, _, h => docsBegin_grouped _ (docsBegin_commaAfter (Ty.docsBegin_tokensOfAll elements h))
  | .reference mutable target, _, h => by
    have hMutable : docsBegin (if mutable then [.word "mut"] else []) = false := by cases mutable <;> rfl
    exact docsBegin_cons rfl (docsBegin_append hMutable (Ty.docsBegin_tokens target h))
  | .slice element, _, h => docsBegin_grouped _ (Ty.docsBegin_tokens element h)
  | .satisfying bound owned, _, h => by
    refine docsBegin_cons rfl (docsBegin_append (Ty.docsBegin_tokens bound h) ?_)
    cases owned <;> rfl
  | .object bound, _, h => docsBegin_cons rfl (Ty.docsBegin_tokens bound h)
  | .callOnce inputs output, _, ⟨hInputs, hOutput⟩ =>
    docsBegin_cons rfl (docsBegin_append
      (docsBegin_grouped _ (docsBegin_commaBetween (Ty.docsBegin_tokensOfAll inputs hInputs)))
      (Ty.docsBegin_outputTokens output hOutput))

theorem Ty.docsBegin_tokensOfAll : (list : List Ty) → Ty.EachOfAll bareAt list →
    ∀ part ∈ Ty.tokensOfAll list, docsBegin part = false
  | [], _ => fun _ hPart => absurd hPart List.not_mem_nil
  | t :: rest, ⟨ht, hRest⟩ =>
    List.forall_mem_cons.mpr ⟨Ty.docsBegin_tokens t ht, Ty.docsBegin_tokensOfAll rest hRest⟩

theorem Ty.docsBegin_outputTokens : (output : Option Ty) → Ty.EachOfOutput bareAt output →
    docsBegin (Ty.outputTokens output) = false
  | none, _ => rfl
  | some t, h => docsBegin_append rfl (Ty.docsBegin_tokens t h)

end

mutual

theorem Expr.docsBegin_tokens : (e : Expr) → e.Each bareAt → docsBegin e.tokens = false
  | .path _, h => h
  | .text _, _ => rfl
  | .field base _, h => docsBegin_append (Expr.docsBegin_tokens base h) rfl
  | .call callee arguments, ⟨hCallee, hArguments⟩ =>
    docsBegin_append (Expr.docsBegin_tokens callee hCallee)
      (docsBegin_grouped _ (docsBegin_commaBetween (Expr.docsBegin_tokensOfAll arguments hArguments)))
  | .method receiver _ types arguments, ⟨hReceiver, hTypes, hArguments⟩ => by
    have hSeparator : docsBegin (if types.isEmpty then [] else separator) = false := by
      cases types <;> rfl
    have hAngles := docsBegin_inAngles (Ty.docsBegin_tokensOfAll types hTypes)
    exact docsBegin_append (Expr.docsBegin_tokens receiver hReceiver) (docsBegin_cons rfl (docsBegin_cons rfl
      (docsBegin_append (docsBegin_append hSeparator hAngles)
        (docsBegin_grouped _ (docsBegin_commaBetween (Expr.docsBegin_tokensOfAll arguments hArguments))))))
  | .borrow target, h => docsBegin_cons rfl (docsBegin_cons rfl (Expr.docsBegin_tokens target h))
  | .record _ fields filledUp, ⟨hPath, hFields⟩ => by
    refine docsBegin_append hPath (docsBegin_grouped _ (docsBegin_append ?_ ?_))
    · exact docsBegin_commaAfter (Expr.docsBegin_fieldTokens filledUp fields hFields)
    · cases filledUp <;> rfl
  | .closure parameters braced body, h => by
    have hBody := Expr.docsBegin_tokens body h
    have hParameters : ∀ part ∈ parameters.map fun name => [Token.word name.text], docsBegin part = false := by
      refine List.forall_mem_map.mpr fun name _ => rfl
    refine docsBegin_cons rfl (docsBegin_append (docsBegin_commaBetween hParameters) (docsBegin_cons rfl ?_))
    cases braced with
    | true => exact docsBegin_grouped _ hBody
    | false => exact hBody
  | .assign target value, ⟨hTarget, hValue⟩ =>
    docsBegin_append (Expr.docsBegin_tokens target hTarget) (docsBegin_cons rfl (Expr.docsBegin_tokens value hValue))

theorem Expr.docsBegin_tokensOfAll : (list : List Expr) → Expr.EachOfAll bareAt list →
    ∀ part ∈ Expr.tokensOfAll list, docsBegin part = false
  | [], _ => fun _ hPart => absurd hPart List.not_mem_nil
  | e :: rest, ⟨he, hRest⟩ =>
    List.forall_mem_cons.mpr ⟨Expr.docsBegin_tokens e he, Expr.docsBegin_tokensOfAll rest hRest⟩

theorem Expr.docsBegin_fieldTokens (followed : Bool) : (fields : List (Ident × Expr)) →
    Expr.EachOfFields bareAt fields → ∀ part ∈ Expr.fieldTokens followed fields, docsBegin part = false
  | [], _ => fun _ hPart => absurd hPart List.not_mem_nil
  | (name, value) :: rest, ⟨hValue, hRest⟩ => by
    rw [Expr.fieldTokens]
    refine List.forall_mem_cons.mpr ⟨docsBegin_cons rfl ?_, Expr.docsBegin_fieldTokens followed rest hRest⟩
    split
    · rfl
    · exact docsBegin_cons rfl (Expr.docsBegin_tokens value hValue)

end

theorem docsBegin_runTokens {e : Expr} (h : e.Each bareAt) : docsBegin (runTokens e) = false :=
  docsBegin_append (e.docsBegin_tokens h) rfl

theorem Stmt.docsBegin_tokens (s : Stmt) (h : s.Each bareAt) : docsBegin s.tokens = false := by
  cases s with
  | bind mutable name value =>
    have hMutable : docsBegin (if mutable then [.word "mut"] else []) = false := by cases mutable <;> rfl
    exact docsBegin_cons rfl (docsBegin_append hMutable (docsBegin_cons rfl (docsBegin_cons rfl
      (docsBegin_append (value.docsBegin_tokens h) rfl))))
  | run e => exact docsBegin_runTokens h
  | each name value body =>
    exact docsBegin_cons rfl (docsBegin_cons rfl (docsBegin_cons rfl (docsBegin_append (value.docsBegin_tokens h.1)
      (docsBegin_grouped _ (docsBegin_flatMap fun e he => docsBegin_runTokens (h.2 e he))))))
  | give e => exact e.docsBegin_tokens h

theorem Signature.docsBegin_tokens (s : Signature) (h : s.Each bareAt) : docsBegin s.tokens = false := by
  have hReceiver : ∀ part ∈ (s.receiver.map Receiver.tokens).toList, docsBegin part = false := by
    rcases s.receiver with _ | _ | _ | _ <;> decide
  have hParameters : ∀ part ∈ s.parameters.map (fun p => Token.word p.1.text :: .mark ':' false :: p.2.tokens),
      docsBegin part = false :=
    List.forall_mem_map.mpr fun p hp => docsBegin_cons rfl (docsBegin_cons rfl (p.2.docsBegin_tokens (h.1 p hp)))
  exact docsBegin_cons rfl (docsBegin_cons rfl (docsBegin_append
    (docsBegin_grouped _ (docsBegin_commaBetween (List.forall_mem_append.mpr ⟨hReceiver, hParameters⟩)))
    (Ty.docsBegin_outputTokens s.output h.2)))

theorem docsBegin_exportTokens (exported : Bool) : docsBegin (exportTokens exported) = false := by
  cases exported <;> rfl

theorem docsBegin_bodyTokens {body : Option (List Stmt)} (h : ∀ s ∈ body.getD [], s.Each bareAt) :
    docsBegin (bodyTokens body) = false := by
  cases body with
  | none => rfl
  | some list => exact docsBegin_grouped _ (docsBegin_flatMap fun s hs => s.docsBegin_tokens (h s hs))

theorem TypeParameter.docsBegin_tokens (p : TypeParameter) (h : p.Each bareAt) : docsBegin p.tokens = false := by
  refine docsBegin_cons rfl ?_
  cases hBound : p.bound with
  | none => rfl
  | some bound => exact docsBegin_cons rfl (bound.docsBegin_tokens (h bound hBound))

theorem docsBegin_parameterTokens {parameters : List TypeParameter} (h : ∀ p ∈ parameters, p.Each bareAt) :
    docsBegin (parameterTokens parameters) = false :=
  docsBegin_inAngles (List.forall_mem_map.mpr fun p hp => p.docsBegin_tokens (h p hp))

theorem docsBegin_bracketTokens {parameters : Option (List TypeParameter)}
    (h : ∀ p ∈ parameters.getD [], p.Each bareAt) : docsBegin (bracketTokens parameters) = false := by
  cases parameters with
  | none => rfl
  | some list => exact docsBegin_angled (List.forall_mem_map.mpr fun p hp => p.docsBegin_tokens (h p hp))

theorem docsBegin_memberTokens {members : Option (List Member)} (h : ∀ m ∈ members.getD [], m.type.Each bareAt .type) :
    docsBegin (memberTokens members) = false := by
  cases members with
  | none => rfl
  | some list =>
    refine docsBegin_grouped _ (docsBegin_commaAfter (List.forall_mem_map.mpr fun m hm => ?_))
    exact docsBegin_append (docsBegin_exportTokens m.exported)
      (docsBegin_cons rfl (docsBegin_cons rfl (m.type.docsBegin_tokens (h m hm))))

theorem docsBegin_parentTokens {parents : List Ty} (h : ∀ t ∈ parents, t.Each bareAt .bound) :
    docsBegin (parentTokens parents) = false := by
  cases parents with
  | nil => rfl
  | cons first rest =>
    obtain ⟨hFirst, hRest⟩ := List.forall_mem_cons.mp h
    exact docsBegin_cons rfl (docsBegin_append (first.docsBegin_tokens hFirst)
      (docsBegin_flatMap fun t ht => docsBegin_cons rfl (t.docsBegin_tokens (hRest t ht))))

theorem docsBegin_traitTokens {implemented : Option Ty} (h : ∀ t ∈ implemented, t.Each bareAt .type) :
    docsBegin (traitTokens implemented) = false := by
  cases implemented with
  | none => rfl
  | some t => exact docsBegin_append (t.docsBegin_tokens (h t rfl)) rfl

def Function.undocumented (f : Function) : Function := { f with doc := none }

mutual

def Item.undocumented : Item → Item
  | .struct _ attributes name parameters members => .struct none attributes name parameters members
  | .trait _ name parameters parents functions =>
    .trait none name parameters parents (functions.map Function.undocumented)
  | .implementation parameters implemented target functions =>
    .implementation parameters implemented target (functions.map Function.undocumented)
  | .alias _ name target => .alias none name target
  | .function f => .function f.undocumented
  | .module name items => .module name (Item.undocumentedAll items)
  | .declaration name => .declaration name

def Item.undocumentedAll : List Item → List Item
  | [] => []
  | item :: rest => item.undocumented :: Item.undocumentedAll rest

end

theorem Item.undocumentedAll_eq_map (items : List Item) :
    Item.undocumentedAll items = items.map Item.undocumented := by
  induction items with
  | nil => rfl
  | cons item rest ih => rw [Item.undocumentedAll, ih, List.map_cons]

theorem Function.drops_tokens (f : Function) : Drops f.tokens f.undocumented.tokens :=
  drops_docTokens f.doc (.refl _)

theorem drops_functions (functions : List Function) :
    Drops (functions.flatMap Function.tokens) ((functions.map Function.undocumented).flatMap Function.tokens) := by
  rw [List.flatMap_map]
  exact .flatMap Function.drops_tokens functions

mutual

/-- An item without documentation differs in dropped attributes alone. -/
theorem Item.drops_tokens : (item : Item) → Drops item.tokens item.undocumented.tokens
  | .struct doc _ _ _ _ => drops_docTokens doc (.refl _)
  | .trait doc _ _ _ functions => by
    rw [undocumented, tokens, tokens]
    refine drops_docTokens doc (.keep _ (.keep _ (.keep _ (.append (.refl _) (.grouped _ ?_)))))
    exact drops_functions functions
  | .implementation parameters implemented target functions => by
    rw [undocumented, tokens, tokens]
    exact .keep _ (.append (.refl _) (.grouped _ (drops_functions functions)))
  | .alias doc _ _ => drops_docTokens doc (.refl _)
  | .function f => f.drops_tokens
  | .module _ items => by
    rw [undocumented, tokens, tokens]
    exact .keep _ (.keep _ (.grouped _ (Item.drops_tokensOfAll items)))
  | .declaration _ => .refl _

theorem Item.drops_tokensOfAll : (items : List Item) →
    Drops (Item.tokensOfAll items) (Item.tokensOfAll (Item.undocumentedAll items))
  | [] => .nil
  | item :: rest => (Item.drops_tokens item).append (Item.drops_tokensOfAll rest)

end

theorem Function.docsBegin_undocumented (f : Function) (h : f.Each bareAt) : docsBegin f.undocumented.tokens = false :=
  docsBegin_append rfl (docsBegin_append
    (docsBegin_append (docsBegin_exportTokens f.exported) (f.signature.docsBegin_tokens h.1))
    (docsBegin_bodyTokens h.2))

theorem docsBegin_functions {functions : List Function} (h : ∀ f ∈ functions, f.Each bareAt) :
    docsBegin (grouped .brace ((functions.map Function.undocumented).flatMap Function.tokens)) = false := by
  rw [List.flatMap_map]
  exact docsBegin_grouped _ (docsBegin_flatMap fun f hf => f.docsBegin_undocumented (h f hf))

mutual

theorem Item.docsBegin_undocumented : (item : Item) → item.Each bareAt →
    (∀ text ∈ item.attributes, docsBegin (attributeTokens text) = false) → docsBegin item.undocumented.tokens = false
  | .struct _ _ _ _ _, ⟨hParameters, hMembers⟩, hAttributes =>
    docsBegin_append rfl (docsBegin_append (docsBegin_flatMap hAttributes) (docsBegin_cons rfl (docsBegin_cons rfl
      (docsBegin_cons rfl (docsBegin_append (docsBegin_parameterTokens hParameters)
        (docsBegin_memberTokens hMembers))))))
  | .trait _ _ _ _ _, ⟨hParameters, hParents, hFunctions⟩, _ =>
    docsBegin_cons rfl (docsBegin_cons rfl (docsBegin_cons rfl (docsBegin_append
      (docsBegin_append (docsBegin_parameterTokens hParameters) (docsBegin_parentTokens hParents))
      (docsBegin_functions hFunctions))))
  | .implementation _ _ target _, ⟨hParameters, hImplemented, hTarget, hFunctions⟩, _ =>
    docsBegin_cons rfl (docsBegin_append (docsBegin_append (docsBegin_append
      (docsBegin_bracketTokens hParameters) (docsBegin_traitTokens hImplemented)) (target.docsBegin_tokens hTarget))
      (docsBegin_functions hFunctions))
  | .alias _ _ target, h, _ =>
    docsBegin_cons rfl (docsBegin_cons rfl (docsBegin_cons rfl (docsBegin_cons rfl
      (docsBegin_append (target.docsBegin_tokens h) rfl))))
  | .function f, h, _ => f.docsBegin_undocumented h
  | .module _ items, h, hAttributes =>
    docsBegin_cons rfl (docsBegin_cons rfl (docsBegin_grouped _ (Item.docsBegin_undocumentedAll items h hAttributes)))
  | .declaration _, _, _ => rfl

theorem Item.docsBegin_undocumentedAll : (items : List Item) → Item.EachOfAll bareAt items →
    (∀ text ∈ Item.attributesOfAll items, docsBegin (attributeTokens text) = false) →
    docsBegin (Item.tokensOfAll (Item.undocumentedAll items)) = false
  | [], _, _ => rfl
  | item :: rest, ⟨hItem, hRest⟩, hAttributes => by
    obtain ⟨hOwn, hOthers⟩ := List.forall_mem_append.mp hAttributes
    exact docsBegin_append (Item.docsBegin_undocumented item hItem hOwn)
      (Item.docsBegin_undocumentedAll rest hRest hOthers)

end

end RowFactory.Code
