import ParamBinding.Tag.Reader
import ParamBinding.Ty.Name
import ParamBinding.Unpacker.Basic

/-!
# Building unpackers

`Ty.unpacker` walks a type once and builds the unpacker of a parameter, or finds out why there is
none. A class with a text form takes one text. Collections, maps and nested models take one text per
occurrence when they are exploded, and otherwise one text with delimiters; maps and nested models
may also take keys. With a content type the text is a document, which is decoded whole, or one
element at a time when a list or map is exploded.
-/

namespace ParamBinding

open ParamBinding.Text

/-- What unpackers are built with. -/
structure Env where
  options : Options
  registry : Registry

/-- The parameter that an unpacker is built for. -/
structure Site where
  field : String
  name : String
  place : Place

namespace Site

/-- An error about the tag of the parameter's field. -/
def tagError (s : Site) (p : Tag.Problem) : CompileError := .tag p (some s.field) none

/-- An error about a type that the parameter would have to be decoded into. -/
def unsupported (s : Site) (t : Ty) (u : Unsupported) : CompileError :=
  .unsupported s.field t.name t.shortName u

/-- Only maps and nested models have keys. -/
def rejectDeepObject (s : Site) (tag : Tag) : Except CompileError Unit :=
  if tag.deepObject then .error (s.tagError .deepObjectOnScalar) else .ok ()

/-- The places with one bare text have one way to write lists. -/
def checkCompound (s : Site) (tag : Tag) : Except CompileError Unit :=
  if s.place.isBare then
    if tag.delimiter ≠ "," then .error (s.tagError .delimiterNotAllowed)
    else if tag.explode then .error (s.tagError .explodeNotAllowed)
    else .ok ()
  else .ok ()

/-- Only the query has keys. -/
def checkDeepObject (s : Site) : Except CompileError Unit :=
  if s.place = .query then .ok ()
  else .error (s.tagError (.deepObjectOutsideQuery s.place.name))

/-- Whether the occurrences of the parameter are decoded one by one. -/
def explodes (s : Site) (tag : Tag) : Bool := s.place.repeats && tag.explode

/-- A decoder of lists, as the tag wants them written. -/
def listUnpacker (s : Site) (tag : Tag) (d : ListDecoder) : Unpacker :=
  if s.explodes tag then .multi d else .single fun v => d (split tag.delimiter v)

/-- A decoder of alternating keys and values, as the tag wants them written. -/
def tokenUnpacker (s : Site) (tag : Tag) (d : ListDecoder) : Unpacker :=
  if s.explodes tag then .multi fun vs => d (resplit vs)
  else .single fun v => d (split tag.delimiter v)

/-- The decoder of an element, which has to take one text. -/
def element (s : Site) (t : Ty) (u : Unpacker) : Except CompileError TextDecoder :=
  match u.single? with
  | some d => .ok d
  | none => .error (s.unsupported t .elementNeedsSeveral)

/-- Decode a text as a document of a type. -/
def decodeDocument (s : Site) (contentType : String) (d : Decoder) (t : Ty) : TextDecoder :=
  fun v => (d.decode (utf8 v) t).mapError fun f =>
    .decode (.content contentType t.name)
      { source := some s.place.name, parameter := some s.name, field := some s.field } f

end Site

/-- How the texts of a type are read. -/
inductive Mode where
  /-- By the decoders of the type itself, with bounds for its numbers. Errors show the type with its
  notes, if it has any. -/
  | plain (bounds : Option Note) (noted : Option Ty)
  /-- As documents of a whole type, which may be an optional type around this one. -/
  | document (d : Decoder) (whole : Ty) (inOptional : Bool)

/-- Texts are read by the decoders of a type without notes. -/
def Mode.own : Mode := .plain none none

namespace Env

/-- How a tag wants the texts of a type to be read. -/
def mode (env : Env) (site : Site) (tag : Tag) (t : Ty) : Except CompileError Mode :=
  if tag.content = "" then .ok .own
  else match env.options.fieldDecoder? tag.content with
    | some d => .ok (.document d t false)
    | none => .error (.missingDecoder tag.content (.onField site.field))

end Env

namespace Ty

/-- Whether a type, or the type inside an optional one, is a map type without a type for its
values. -/
def isMalformed (t : Ty) : Bool :=
  match t.shape with
  | .malformed => true
  | .optional u => match u.shape with
    | .malformed => true
    | _ => false
  | _ => false

/-- The decoder of documents of an element type. -/
def documentElement (site : Site) (tag : Tag) (d : Decoder) (t : Ty) :
    Except CompileError TextDecoder :=
  if t.isMalformed then .error .missingTypeArgument
  else .ok (site.decodeDocument tag.content d t)

/-- The unpacker of a class with a text form, or else another one. -/
def readOr (env : Env) (site : Site) (tag : Tag) (t : Ty)
    (other : Except CompileError Unpacker) : Except CompileError Unpacker :=
  match t.bareReader? env.registry with
  | some r => do
    site.rejectDeepObject tag
    .ok (.single r.read)
  | none => other

/-- The unpacker of lists of documents, each of which is an element. -/
def documentList (site : Site) (tag : Tag) (d : Decoder) (whole : Ty) (c : Collection) (elem : Ty) :
    Except CompileError Unpacker :=
  if site.explodes tag then do
    let e ← documentElement site tag.withoutExplode d elem
    .ok (.multi (gather c e))
  else .ok (.single (site.decodeDocument tag.content d whole))

/-- The key that a field of a nested model is filled under. -/
def memberKey (tag : Tag) (field : String) : String :=
  if tag.name ≠ "" then tag.name else if tag.base ≠ "" then tag.base else field

mutual

/-- The unpacker of a parameter of a type, with a tag and a way to read its texts. -/
def build (env : Env) : Ty → Site → Tag → Mode → Except CompileError Unpacker
  | .annotated t ns, site, tag, mode => match mode with
    | .plain b noted =>
      -- errors show the outermost notes, bounds are taken from the innermost
      let whole := noted.or (some (.annotated t ns))
      build env t site tag (.plain ((ns.find? Note.isBound).or b) whole)
    | .document d w o => build env t site tag (.document d w o)
  | .optional f t, site, tag, mode => match mode with
    | .plain _ _ => readOr env site tag (.optional f t) (build env t site tag .own)
    | .document d w o =>
      if o then .ok (.single (site.decodeDocument tag.content d w))
      else build env t site tag (.document d w true)
  | .scalar s, site, tag, mode => match mode with
    | .plain b _ => readOr env site tag (.scalar s) do
      site.rejectDeepObject tag
      .ok (.single (s.read b))
    | .document d w _ => .ok (.single (site.decodeDocument tag.content d w))
  | .sequence n e spelled, site, tag, mode => match mode with
    | .plain _ _ => readOr env site tag (.sequence n e spelled) do
      site.checkCompound tag
      if tag.deepObject then .error (site.tagError .deepObjectOnSequence)
      else
        let u ← build env e site tag.withoutExplode .own
        let elem ← site.element e u
        .ok (site.listUnpacker tag (gather n.gathers elem))
    | .document d w _ => documentList site tag d w n.gathers e
  | .row b e form, site, tag, mode => match mode with
    | .plain _ _ => readOr env site tag (.row b e form) do
      site.checkCompound tag
      if tag.deepObject then .error (site.tagError .deepObjectOnSequence)
      else
        let u ← build env e site tag.withoutExplode .own
        let elem ← site.element e u
        .ok (site.listUnpacker tag (gather .tuple elem))
    | .document d w _ => documentList site tag d w .tuple e
  | .tuple b es, site, tag, mode => match mode with
    | .plain _ _ => readOr env site tag (.tuple b es) do
      site.checkCompound tag
      if tag.deepObject then .error (site.tagError .deepObjectOnSequence)
      else
        let slots ← buildSlots env es site tag.withoutExplode
        .ok (site.listUnpacker tag (fillTuple slots))
    | .document d w _ => .ok (.single (site.decodeDocument tag.content d w))
  | .map n k v spelled, site, tag, mode => match mode with
    | .plain _ noted => readOr env site tag (.map n k v spelled) do
      site.checkCompound tag
      let ku ← build env k site tag.withoutExplode.withoutDeepObject .own
      let key ← site.element k ku
      -- a key may be given several times, so its values may still be exploded
      let valueTag := if tag.deepObject then tag.withoutDeepObject else tag.withoutExplode
      let value ← build env v site valueTag .own
      if tag.deepObject then
        site.checkDeepObject
        .ok (.deepObject fun keys => (gatherKeys key value [] keys).map .map)
      else match value.single? with
        | some d => .ok (site.tokenUnpacker tag (unpackMap key d))
        | none => .error (site.unsupported (noted.getD (.map n k v spelled)) .valueNeedsSeveral)
    | .document d w _ =>
      if site.explodes tag then do
        let ku ← build env k site tag.withoutExplode.withoutContent.withoutDeepObject .own
        let key ← site.element k ku
        let value ← documentElement site tag.withoutExplode d v
        .ok (.multi fun vs => unpackMap key value (resplit vs))
      else .ok (.single (site.decodeDocument tag.content d w))
  | .model h ms, site, tag, mode => match mode with
    | .plain _ _ => readOr env site tag (.model h ms) do
      site.checkCompound tag
      let targets ← buildMembers env ms site.place tag.deepObject []
      let d : StructDecoder := ⟨site.place, env.options.strict, h.newInstance ms, targets⟩
      if tag.deepObject then
        site.checkDeepObject
        .ok (.deepObject d.unpackKeys)
      else .ok (site.tokenUnpacker tag d.unpackTokens)
    | .document d w _ => .ok (.single (site.decodeDocument tag.content d w))
  | .keyedOnly _, _, _, _ => .error .missingTypeArgument
  | t@(.plain _ _), site, tag, mode | t@(.enum _), site, tag, mode
  | t@(.union _ _), site, tag, mode | t@(.literal _), site, tag, mode
  | t@(.callable _ _), site, tag, mode | t@(.generic _ _ _), site, tag, mode
  | t@.ellipsis, site, tag, mode => match mode with
    | .plain _ noted =>
      readOr env site tag t (.error (site.unsupported (noted.getD t) .noTextForm))
    | .document d w _ => .ok (.single (site.decodeDocument tag.content d w))

/-- The places of a tuple. -/
def buildSlots (env : Env) : List Ty → Site → Tag → Except CompileError (List Slot)
  | [], _, _ => .ok []
  | t :: ts, site, tag => do
    let u ← build env t site tag .own
    let d ← site.element t u
    let slots ← buildSlots env ts site tag
    .ok (⟨d, t.zero⟩ :: slots)

/-- The fields of a nested model that can be filled, given the keys that were taken before them. -/
def buildMembers (env : Env) :
    List (Member Ty) → Place → Bool → List String → Except CompileError (List MemberTarget)
  | [], _, _, _ => .ok []
  | m :: ms, place, deep, taken => do
    let text := (m.tag? env.options.tagKey).getD ""
    let tag ← CompileError.ofTag m.name text (Tag.read true text)
    if tag.base = "-" then buildMembers env ms place deep taken
    else
      let key := memberKey tag m.name
      if taken.contains key then .error (.duplicate (.memberKey key m.name))
      else
        let site : Site := ⟨m.name, key, place⟩
        -- only keys can repeat what is inside a nested model
        let tag := if deep then tag else tag.withoutExplode
        if tag.deepObject then .error (site.tagError (.deepObjectOnMember key))
        else
          let mode ← env.mode site tag m.type
          let u ← build env m.type site tag mode
          let targets ← buildMembers env ms place deep (taken ++ [key])
          .ok (⟨key, m.name, u⟩ :: targets)

end

/-- The unpacker of a parameter of a type. -/
def unpacker (env : Env) (t : Ty) (site : Site) (tag : Tag) : Except CompileError Unpacker := do
  let mode ← env.mode site tag t
  build env t site tag mode

end Ty

end ParamBinding
