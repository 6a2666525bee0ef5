import ServiceClient.Code.Token
import ServiceClient.Codec.Plan

/-! The code of a client module. Each part of the plan becomes items of its own: a declaration, an
encoder, a decoder for the module's protocol, and the client with a method for each operation. -/

namespace ServiceClient.Generator.Emit
open ServiceClient.Code ServiceClient.Codec ServiceClient.Schema
open ServiceClient.Code.Expr (var)

def primitiveType : PrimitiveKind → Ty
  | .string | .timestamp => .name "String"
  | .integer => .name "i32"
  | .long => .name "i64"
  | .float => .name "f32"
  | .double => .name "f64"
  | .blob => .app "Vec" [.name "u8"]
  | .boolean => .name "bool"

def optional (type : String) : Ty :=
  .app "Option" [.name type]

def aliasType : Alias → Ty
  | .primitive kind => primitiveType kind
  | .list element => .app "Vec" [.name element]
  | .map key value => .app "BTreeMap" [.name key, .name value]

def memberType (type : String) (required : Bool) : Ty :=
  if required then .name type else optional type

def valueDerives : List String :=
  ["Debug", "Clone", "Default", "PartialEq"]

def declaration (d : Declaration) : Item :=
  match d.body with
  | .struct [] => .unitStruct d.docs valueDerives d.name
  | .struct fields =>
    .struct d.docs valueDerives d.name none
      (fields.map fun f => ⟨f.docs, true, f.name, memberType f.type f.required⟩) false
  | .alias target => .alias d.docs d.name (aliasType target)

def encoderName (type : String) : String :=
  type ++ "Encoder"

def decoderName (type : String) : String :=
  type ++ "Decoder"

/-- A parameter that the body never mentions gets an underscore in front. -/
def param (body : List Stmt) (name : String) (type : Ty) : Param :=
  .typed (if Stmt.mentions body name then name else "_" ++ name) type

def codecItems (name : String) (f : Function) : List Item :=
  [.unitStruct [] [] name, .impl none (.name name) [.function f]]

/-! Statements and calls in common use. -/

def run (e : Expr) : Stmt := .run e true

def tail (e : Expr) : Stmt := .run e false

def bind (name : String) (value : Expr) : Stmt := .bind false name none value

def call (function : String) (args : List Expr) : Expr := .call (var function) args

def ok (e : Expr) : Expr := call "Ok" [e]

def some (e : Expr) : Expr := call "Some" [e]

def onRequest (method : String) (args : List Expr) : Stmt :=
  run (.method (var "request") method args)

def putParam (name value : Expr) : Stmt :=
  run (.method (.method (var "request") "params_mut" []) "put" [name, value])

def onStack (method : String) (args : List Expr) : Expr :=
  .propagate (.method (var "stack") method args)

/-! Encoders. -/

def joinPath (name segment : Expr) : Expr :=
  .ref false (call "join_path" [name, segment])

def encode (type : String) (name value : Expr) : Stmt :=
  run (.call (.path [encoderName type, "encode"]) [var "request", name, value])

def toWire (name : String) : Expr :=
  .method (var name) "to_wire" []

def writeValue : Target → Stmt
  | .header wire => onRequest "add_header" [.text wire, toWire "value"]
  | .pathParam wire => onRequest "set_path_param" [.text wire, toWire "value"]
  | .queryParam wire => putParam (.text wire) (toWire "value")
  | .rawPayload => onRequest "set_payload" [.method (var "value") "clone" []]
  | .nested type wire => encode type (joinPath (var "name") (.text wire)) (var "value")

def writeField (f : FieldWrite) : Stmt :=
  let value := .ref false (.field (var "obj") f.field)
  if f.required then tail (.block [bind "value" value, writeValue f.target])
  else tail (.ifLet (.wrap "Some" (.bind "value")) value [writeValue f.target])

def numbered (pattern : Pattern) (body : List Stmt) : Stmt :=
  let pairs := .method (.method (var "obj") "iter" []) "enumerate" []
  tail (.forEach (.tuple [.bind "index", pattern]) pairs body)

def nextIndex : Expr :=
  .binary "+" (var "index") (.number 1)

def encoderBody : EncoderBody → List Stmt
  | .scalar => [putParam (var "name") (toWire "obj")]
  | .list element =>
    [numbered (.bind "element")
      [encode element (joinPath (var "name") nextIndex) (var "element")]]
  | .map key value keyWire valueWire =>
    let entry := .ref false (var "entry")
    [numbered (.tuple [.bind "key", .bind "value"])
      [bind "entry" (call "join_path" [var "name", nextIndex]),
        encode key (joinPath entry (.text keyWire)) (var "key"),
        encode value (joinPath entry (.text valueWire)) (var "value")]]
  | .struct fields => fields.map writeField

def encoder (e : Encoder) : List Item :=
  let body := encoderBody e.body
  codecItems (encoderName e.type)
    { docs := [], async := false, name := "encode",
      params :=
        [param body "request" (.ref true (.name "ServiceRequest")),
          param body "name" (.ref false (.name "str")),
          param body "obj" (.ref false (.name e.type))],
      result := none, body }

/-! What the decoders of both protocols share. -/

def decode (type : String) (args : List Expr) : Expr :=
  .propagate (.call (.path [decoderName type, "decode"]) args)

def result (type : String) : Ty :=
  .app "Result" [.name type, .name "ParseError"]

/-- The variables for members that are read from the body. -/
def bodySlots (fields : List FieldRead) : List Stmt :=
  (fields.filter (!·.isHeader)).map fun f =>
    .bind true f.slot (optional f.type) (var "None")

def headerSlots (fields : List FieldRead) : List Stmt :=
  (fields.filter (·.isHeader)).map fun f =>
    let found := call "header_value" [var "headers", .text f.wire]
    let read := .call (.scalarFn f.type "from_wire") [.text f.wire, var "text"]
    .bind false f.slot (optional f.type)
      (.propagate (.method (.method found "map" [.closure ["text"] read]) "transpose" []))

def fieldValue (shape : String) (f : FieldRead) : Expr :=
  let slot := var f.slot
  if !f.required then slot
  else if f.collection.isSome then .method slot "unwrap_or_default" []
  else
    let missing := .call (.path ["ParseError", "missing_field"]) [.text shape, .text f.wire]
    .propagate (.method slot "ok_or_else" [.closure [] missing])

def finish (type shape : String) (fields : List FieldRead) : Stmt :=
  match fields with
  | [] => tail (ok (var type))
  | _ => tail (ok (.struct type (fields.map fun f => .mk f.field (fieldValue shape f)) false))

def mergeInto (slot : String) (value : Expr) : Expr :=
  call "merge_into" [.ref true (var slot), value]

/-! Decoders of XML elements. -/

def xmlDecode (type : String) (tag : Expr) : Expr :=
  decode type [tag, var "headers", var "stack"]

def openTag (tag : Expr) : Stmt :=
  run (onStack "start_element" [tag])

def closeTag (tag : Expr) : Stmt :=
  run (onStack "end_element" [tag])

def xmlArm (f : FieldRead) : Arm :=
  let wire := .text f.wire
  match f.source with
  | .body (Option.some element) =>
    .mk (.text f.wire)
      (.block
        [openTag wire, run (mergeInto f.slot (xmlDecode f.type (.text element))), closeTag wire])
      false
  | _ =>
    let value := xmlDecode f.type wire
    let body :=
      if f.collection.isSome then mergeInto f.slot value else .assign (var f.slot) (some value)
    .mk (.text f.wire) body true

def xmlScan (fields : List FieldRead) : Stmt :=
  match fields.filter (!·.isHeader) with
  | [] =>
    tail (.whileTrue (.method (onStack "peek_start" []) "is_some" [])
      [run (onStack "skip_element" [])])
  | read =>
    let current :=
      .cases (onStack "peek_start" [])
        [.mk (.wrap "Some" (.bind "name")) (.method (var "name") "to_owned" []) true,
          .mk (.bind "None") .breakLoop true]
    let arms := read.map xmlArm ++ [.mk .wild (onStack "skip_element" []) true]
    tail (.loop
      [bind "current_name" current,
        tail (.cases (.method (var "current_name") "as_str" []) arms)])

def whileTag (body : List Stmt) : Stmt :=
  let next := .binary "==" (onStack "peek_start" []) (some (var "tag_name"))
  tail (.whileTrue next body)

def newObject (type : String) : Stmt :=
  .bind true "obj" none (.call (.path [type, "new"]) [])

def insertEntry (value : String) : Stmt :=
  run (.method (.method (var "obj") "entry" [var "key"]) "or_insert" [var value])

def xmlBody (type : String) : DecoderBody → List Stmt
  | .scalar _ =>
    let text := .ref false (onStack "characters" [])
    [openTag (var "tag_name"),
      bind "obj"
        (.propagate (.call (.scalarFn type "from_wire") [var "tag_name", text])),
      closeTag (var "tag_name"),
      tail (ok (var "obj"))]
  | .list element =>
    [newObject type,
      whileTag [run (.method (var "obj") "push" [xmlDecode element (var "tag_name")])],
      tail (ok (var "obj"))]
  | .map key value keyWire valueWire =>
    [newObject type,
      whileTag
        [openTag (var "tag_name"),
          bind "key" (xmlDecode key (.text keyWire)),
          bind "value" (xmlDecode value (.text valueWire)),
          closeTag (var "tag_name"),
          insertEntry "value"],
      tail (ok (var "obj"))]
  | .struct shape fields =>
    openTag (var "tag_name") :: bodySlots fields ++ xmlScan fields :: closeTag (var "tag_name") ::
      headerSlots fields ++ [finish type shape fields]

theorem xmlBody_struct (type shape : String) (fields : List FieldRead) :
    xmlBody type (.struct shape fields) =
      [openTag (var "tag_name")] ++ bodySlots fields ++ [xmlScan fields] ++
        [closeTag (var "tag_name")] ++ headerSlots fields ++ [finish type shape fields] := by
  simp [xmlBody]

def xmlDecoder (d : Decoder) : List Item :=
  let body := xmlBody d.type d.body
  codecItems (decoderName d.type)
    { docs := [], async := false, name := "decode",
      params :=
        [param body "tag_name" (.ref false (.name "str")),
          param body "headers" (.ref false (.name "HeaderMap")),
          param body "stack" (.ref true (.name "XmlReader"))],
      result := Option.some (result d.type), body }

/-! Decoders of JSON values. -/

def jsonDecode (type : String) (name value : Expr) : Expr :=
  decode type [name, var "headers", value]

def expect (what : String) : Expr :=
  .propagate (call what [var "field_name", var "value"])

def jsonArm (f : FieldRead) : Arm :=
  let value := jsonDecode f.type (.text f.wire) (var "item")
  let body :=
    if f.collection.isSome then mergeInto f.slot value else .assign (var f.slot) (some value)
  .mk (.text f.wire) body true

def eachEntry (body : List Stmt) : Stmt :=
  tail (.forEach (.tuple [.bind "key", .bind "item"]) (expect "expect_object") body)

def jsonScan (fields : List FieldRead) : Stmt :=
  match fields.filter (!·.isHeader) with
  | [] => run (expect "expect_object")
  | read =>
    let arms := read.map jsonArm ++ [.mk .wild (.block []) false]
    eachEntry
      [tail (.ifTrue (.method (var "item") "is_null" []) [run .continueLoop]),
        tail (.cases (.method (var "key") "as_str" []) arms)]

def jsonBody (type : String) : DecoderBody → List Stmt
  | .scalar _ => [tail (.call (.scalarFn type "from_json") [var "field_name", var "value"])]
  | .list element =>
    let each :=
      .call (.path [decoderName element, "decode"]) [var "field_name", var "headers", var "item"]
    let items := .method (expect "expect_array") "iter" []
    [tail (.method (.method items "map" [.closure ["item"] each]) "collect" [])]
  | .map key value _ _ =>
    let text := .ref false (.call (.path ["JsonValue", "String"]) [.method (var "key") "clone" []])
    [newObject type,
      eachEntry
        [bind "key" (jsonDecode key (var "field_name") text),
          bind "item" (jsonDecode value (var "field_name") (var "item")),
          insertEntry "item"],
      tail (ok (var "obj"))]
  | .struct shape fields =>
    bodySlots fields ++ jsonScan fields :: headerSlots fields ++ [finish type shape fields]

theorem jsonBody_struct (type shape : String) (fields : List FieldRead) :
    jsonBody type (.struct shape fields) =
      bodySlots fields ++ [jsonScan fields] ++ headerSlots fields ++
        [finish type shape fields] := by
  simp [jsonBody]

def jsonDecoder (d : Decoder) : List Item :=
  let body := jsonBody d.type d.body
  codecItems (decoderName d.type)
    { docs := [], async := false, name := "decode",
      params :=
        [param body "field_name" (.ref false (.name "str")),
          param body "headers" (.ref false (.name "HeaderMap")),
          param body "value" (.ref false (.name "JsonValue"))],
      result := Option.some (result d.type), body }

def decoder : Protocol → Decoder → List Item
  | .restXml => xmlDecoder
  | .json => jsonDecoder

/-! The client. -/

def setupStep : Setup → Stmt
  | .param name value => putParam (.text name) (.text value)
  | .header name value => onRequest "add_header" [.text name, .text value]

def responsePart (part : String) : Expr :=
  .ref false (.field (var "response") part)

def decodeOutput (type : String) (args : List Expr) : Stmt :=
  tail (ok (decode type args))

/-- What the method yields for a response that reports success. -/
def success (protocol : Protocol) : Option Output → Arm
  | none => .mk (.range 200 299) (ok .unit) true
  | Option.some output =>
    let body :=
      match protocol with
      | .restXml =>
        [.bind true "stack" none
            (.propagate (.call (.path ["XmlReader", "for_response"])
              [responsePart "body", .text output.shape])),
          bind "root" (.method (var "stack") "root_name" []),
          decodeOutput output.type
            [.ref false (var "root"), responsePart "headers", .ref true (var "stack")]]
      | .json =>
        [bind "value" (.propagate (call "parse_json" [responsePart "body"])),
          decodeOutput output.type
            [.text output.shape, responsePart "headers", .ref false (var "value")]]
    .mk (.range 200 299) (.block body) true

def methodBody (protocol : Protocol) (m : Method) : List Stmt :=
  let fresh :=
    .call (.path ["ServiceRequest", "new"])
      [.text m.http.word, .path ["Self", "ENDPOINT_PREFIX"],
        .ref false (.field (var "self") "region"), .text m.uri]
  let send := .method (.field (var "self") "dispatcher") "dispatch" [.ref false (var "request")]
  let failure :=
    call "Err"
      [.call (.path ["OperationError", "service"])
        [.text m.operation, var "status", responsePart "body"]]
  let encodeInput :=
    m.input.map fun type =>
      run (.call (.path [encoderName type, "encode"])
        [.ref true (var "request"), .text "", var "input"])
  .bind (!m.setup.isEmpty || m.input.isSome) "request" none fresh ::
    m.setup.map setupStep ++ encodeInput.toList ++
    [bind "response" (.propagate (.await send)),
      tail (.cases (.field (var "response") "status")
        [success protocol m.output, .mk (.bind "status") failure true])]

def method (protocol : Protocol) (m : Method) : Function :=
  let input := m.input.map fun type => Param.typed "input" (.ref false (.name type))
  { docs := m.docs, async := true, name := m.name, params := .self :: input.toList,
    result := Option.some
      (.app "Result"
        [(m.output.map fun o => Ty.name o.type).getD .unit, .name "OperationError"]),
    body := methodBody protocol m }

def newMethod : Function :=
  { docs := [], async := false, name := "new",
    params := [.typed "dispatcher" (.name "D"), .typed "region" (.into (.name "String"))],
    result := Option.some (.name "Self"),
    body :=
      [tail (.struct "Self"
        [.mk "dispatcher" none, .mk "region" (Option.some (.method (var "region") "into" []))]
        true)] }

def regionMethod : Function :=
  { docs := [], async := false, name := "region", params := [.self],
    result := Option.some (.ref false (.name "str")),
    body := [tail (.ref false (.field (var "self") "region"))] }

def client (protocol : Protocol) (c : Client) : List Item :=
  let prefixConst :=
    ImplItem.const "ENDPOINT_PREFIX" (.staticRef (.name "str")) (.text c.endpointPrefix)
  [.struct c.docs ["Debug", "Clone"] c.name (Option.some "D")
      [⟨[], false, "dispatcher", .name "D"⟩, ⟨[], false, "region", .name "String"⟩] true,
    .impl (Option.some ("D", "DispatchRequest")) (.app c.name [.name "D"])
      (prefixConst :: .function newMethod :: .function regionMethod ::
        c.methods.map fun m => .function (method protocol m))]

def shapeItems (protocol : Protocol) (s : ShapePlan) : List Item :=
  (s.decoder.map (decoder protocol)).getD [] ++ (s.declaration.map declaration).toList ++
    (s.encoder.map encoder).getD []

/-- The whole module: every shape's decoder, declaration and encoder in turn, then the client. -/
def items (m : Module) : List Item :=
  .useAll ["shapegen", "prelude"] :: m.shapes.flatMap (shapeItems m.protocol) ++
    client m.protocol m.client

def tokenText (items : List Item) : String :=
  Token.render (items.flatMap Item.tokens)

end ServiceClient.Generator.Emit
