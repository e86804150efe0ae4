import ParamBinding.Content.Fit.Listed
import ParamBinding.Content.Fit.Schema
import ParamBinding.Ty.Shape
import ParamBinding.Value.Equality

/-!
# Fitting documents to types

The value that a document writes is fitted to the type that is wanted, piece by piece: single values
as their classes say, lists become sets and tuples, and maps become models. Bounds on numbers are
not checked. Of a choice between types the best one is taken.
-/

namespace ParamBinding

namespace Value

mutual

/-- The value of a document where any value is wanted: an entry that is repeated takes the place of
the earlier one. -/
def settled : Value → Value
  | .list xs => .list (settledList xs)
  | .tuple xs => .tuple (settledList xs)
  | .map es => .map (settledEntries [] es)
  | v => v

/-- The values of several documents. -/
def settledList : List Value → List Value
  | [] => []
  | x :: xs => settled x :: settledList xs

/-- The entries of a map behind others. -/
def settledEntries : List (Value × Value) → List (Value × Value) → List (Value × Value)
  | acc, [] => acc
  | acc, (k, v) :: es => settledEntries (insertEntry acc k (settled v)) es

end

end Value

/-! ### Collections -/

/-- The elements of a list, and how far it is from the collection that is wanted. -/
def elements? (form : DocumentForm) (c : Collection) (v : Value) : Option (List Value × Slack) :=
  let wide (same : Bool) : Slack := if same then .none else form.spelling
  match v with
  | .list xs => some (xs, wide (c = .list))
  | .tuple xs => some (xs, wide (c = .tuple))
  | .set xs => some (xs, wide (c = .set))
  | .frozenSet xs => some (xs, wide (c = .frozenSet))
  | _ => none

/-- The elements of a list, whose change is noted. -/
def elements (form : DocumentForm) (c : Collection) (v : Value) : Fitting (List Value) := do
  let (xs, slack) ← Fitting.ofOption (elements? form c v)
  Fitting.note slack
  pure xs

/-- Any value, as it is. -/
def anything (v : Value) : Fitting Value := Fitting.ofFit ⟨v.settled, .widened⟩

/-- A collection of elements that fit. Elements of sets have to be hashable. -/
def Collection.assemble (c : Collection) (vs : List Value) : Fitting Value :=
  match c with
  | .list | .tuple => pure (c.wrap vs)
  | .set | .frozenSet =>
    if vs.any (·.unhashable?.isSome) then Fitting.refuse
    else pure (c.wrap (vs.foldl Value.insertElement []))

/-- A map of entries that fit. -/
def assembleMap (es : List (Value × Value)) : Fitting Value :=
  if es.any (·.1.unhashable?.isSome) then Fitting.refuse
  else pure (.map (es.foldl (fun acc e => Value.insertEntry acc e.1 e.2) []))

/-- A map whose keys and values may be anything. -/
def anyMap (entries : List (Value × Value)) : Fitting Value := do
  Fitting.note (if entries.isEmpty then .none else .widened)
  pure (Value.map entries).settled

/-- The form of the keys of a map in a document. -/
def DocumentForm.keys : DocumentForm → DocumentForm
  | .plain => .plain
  | .json | .jsonName => .jsonName

/-- Whether a value is a sequence as it is: a list or a tuple, and also a text or bytes. -/
def isSequence : Value → Bool
  | .list _ | .tuple _ | .text _ | .bytes _ => true
  | _ => false

/-- What a document says about a field, the last time it does. -/
def field? (entries : List (Value × Value)) (name : String) : Option Value :=
  (entries.reverse.find? fun e => match e.1 with
    | .text k => k == name
    | _ => false).map (·.2)

/-- The names of a map that is to become a model are texts. -/
def hasTextKeys (entries : List (Value × Value)) : Bool :=
  entries.all fun e => match e.1 with
    | .text _ => true
    | _ => false

namespace Ty

mutual

/-- The value of a document as a value of a type. -/
def fit (form : DocumentForm) : Ty → Value → Fitting Value
  | .scalar s, v => do Fitting.ofFit (← Fitting.ofOption (s.kind.fit form v))
  | .plain c _, v =>
    if isAny (.plain c none) then anything v
    else do Fitting.ofFit (← Fitting.ofExcept (c.fit form v))
  | .enum e, v => do Fitting.ofFit (← Fitting.ofOption (e.fit form v))
  | .literal vs, v => Fitting.ofOption (listed? form vs v)
  | .sequence n e spelled, v =>
    if n = .sequence && form = .plain then
      if spelled && !e.isAny then match v with
        | .list xs => .list <$> xs.mapM (fit form e)
        | .tuple xs => .tuple <$> xs.mapM (fit form e)
        | _ => Fitting.refuse
      else if isSequence v then pure v.settled
      else Fitting.refuse
    else do
      let xs ← elements form n.gathers v
      if spelled && !e.isAny then n.gathers.assemble (← xs.mapM (fit form e))
      else n.gathers.assemble (xs.map Value.settled)
  | .row _ e rowForm, v => do
    let xs ← elements form .tuple v
    match rowForm with
    | .empty => if xs.isEmpty then pure (.tuple []) else Fitting.refuse
    | .dots => .tuple <$> xs.mapM (fit form e)
    | .bare => .tuple <$> xs.mapM anything
  | .tuple _ es, v => do
    let xs ← elements form .tuple v
    .tuple <$> fitEach form es xs
  | .map _ k w spelled, v => match v with
    | .map entries =>
      if spelled then do
        assembleMap (← entries.mapM fun e => do
          let key ← fit form.keys k e.1
          let value ← fit form w e.2
          pure (key, value))
      else anyMap entries
    | _ => Fitting.refuse
  | .optional _ t, v => match v with
    | .none => pure .none
    | v => fit form t v
  | .annotated t _, v => fit form t v
  | .union _ ts, v => match v with
    | .none => if ts.any isNone then pure .none else Fitting.choose none (fitChoices form ts v)
    | v => Fitting.choose none (fitChoices form ts v)
  | .model h ms, v => match v with
    | .map entries =>
      if hasTextKeys entries then do
        let fields ← fitMembers form ms entries
        Fitting.addFields
          (ms.filter fun m => m.isParameter && (field? entries m.name).isSome).length
        Fitting.note .widened
        pure (.model ⟨h.cls.name, h.frozen, fields⟩)
      else Fitting.refuse
    | _ => Fitting.refuse
  | .generic n ts _, v => match n with
    | .builtinDeque | .deque => do
      let xs ← elements form .list v
      match ts with
      | [] => pure (.list (xs.map Value.settled))
      | e :: _ =>
        if e.isAny then pure (.list (xs.map Value.settled)) else .list <$> xs.mapM (fit form e)
    | .orderedDict => match v with
      | .map entries => match ts with
        | [k, w] => do
          assembleMap (← entries.mapM fun e => do
            let key ← fit form.keys k e.1
            let value ← fit form w e.2
            pure (key, value))
        | _ => anyMap entries
      | _ => Fitting.refuse
    | _ => Fitting.refuse
  | .callable _ _, _ | .keyedOnly _, _ | .ellipsis, _ => Fitting.refuse

/-- The values of a tuple, each for its own type. -/
def fitEach (form : DocumentForm) : List Ty → List Value → Fitting (List Value)
  | [], [] => pure []
  | t :: ts, x :: xs => do
    let v ← fit form t x
    let vs ← fitEach form ts xs
    pure (v :: vs)
  | _, _ => Fitting.refuse

/-- A value as one of several types. -/
def fitChoices (form : DocumentForm) : List Ty → Value → List (Fitting Value)
  | [], _ => []
  | t :: ts, v => fit form t v :: fitChoices form ts v

/-- The fields of a model. A field that the entries leave out has its initial value; one that has
none has to be there. -/
def fitMembers (form : DocumentForm) :
    List (Member Ty) → List (Value × Value) → Fitting (List (String × Option Value))
  | [], _ => pure []
  | m :: ms, entries => do
    let value ←
      if m.isParameter then match field? entries m.name with
        | some v => some <$> fit form m.type v
        | none => some <$> Fitting.ofOption m.initial
      else pure m.initial
    let rest ← fitMembers form ms entries
    pure ((m.name, value) :: rest)

end

/-- A document's value as a value of a type. -/
def ofDocument (form : DocumentForm) (t : Ty) (v : Value) : Except Fault Value :=
  (t.fit form v |>.run {}).map (·.1)

end Ty

end ParamBinding
