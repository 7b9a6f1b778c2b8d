import OtelOpenstack.Carriers

/-!
The wrappers around HTTP: client spans around keystoneauth1's `Session.request` and the SDK's
`Proxy.request`, and the request span around the `__call__` of keystonemiddleware.

What the standard library and foreign objects make of a value is a parameter, `Reading`.
-/

set_option autoImplicit false

namespace OtelOpenstack.Http

open Effects Python Otel ContextApi Carriers

/-- The parts of a parsed URL that are read. -/
structure Url where
  path : String
  hostname : Option String
  port : Except Exn (Option ℕ)

/-- A response, as far as it is read; the URL is that of the prepared request behind it. -/
structure Response where
  statusCode : Option ℤ
  url : Option String

/-- How values are read: `urlparse`, `upper`, `str` of an argument that is not a plain value,
`int` (of which a `TypeError` and a `ValueError` are caught alike), the response in a result, and
the status and the response an exception carries. -/
structure Reading (α : Type) where
  urlparse : String → Except Exn Url
  upper : String → String
  str : Arg → Except Exn String
  int : Val → Option ℤ
  response : α → Option Response
  httpStatus : Exn → Option ℤ
  errorResponse : Exn → Option Response

/-- URLs have no parts, and nothing is read of responses. -/
def Reading.nothing {α : Type} : Reading α where
  urlparse _ := .ok ⟨"", none, .ok none⟩
  upper := id
  str _ := .ok ""
  int _ := none
  response _ := none
  httpStatus _ := none
  errorResponse _ := none

def Reading.text {α : Type} (r : Reading α) : Arg → Except Exn String
  | .val v => v.text
  | a => r.str a

/-- `kwargs[key] = a`. -/
def setKwarg : Kwargs → String → Arg → Kwargs
  | [], key, a => [(key, a)]
  | (k, b) :: kwargs, key, a =>
    if key = k then (k, a) :: kwargs else (k, b) :: setKwarg kwargs key a

/-- `a or ""` of an argument that has to be text; `method` is what only text can do. -/
def orText (dicts : List Dict) (method : String) (a : Arg) : Except Exn String := do
  if ← a.truth dicts then
    match a with
    | .val (.str s) => pure s
    | _ => throw (noAttribute method)
  else pure ""

def httpUrl (dicts : List Dict) (args : Args) (kwargs : Kwargs) : Except Exn String :=
  orText dicts "decode" (arg args 0 kwargs "url")

def httpMethod {α : Type} (r : Reading α) (dicts : List Dict) (args : Args) (kwargs : Kwargs) :
    Except Exn String := do
  let method ← orText dicts "upper" (arg args 1 kwargs "method")
  pure (r.upper method)

section

variable {Ctx H α : Type} (F : Faults) (r : Reading α)

/-! ### Responses -/

def recordUrl (span : SpanContext) (response : Option Response) : Code Ctx H Unit :=
  onlySome (response.bind Response.url) fun url =>
    onlyIf (url ≠ "") do
      setAttribute F span "url.full" (.str url)
      let parsed ← liftExcept (r.urlparse url)
      onlySome parsed.hostname fun host =>
        onlyIf (host ≠ "") (setAttribute F span "server.address" (.str host))
      let port ← liftExcept parsed.port
      onlySome port fun port =>
        onlyIf (port ≠ 0) (setAttribute F span "server.port" (.int port))

/-- `_record_response`, the same for both clients. -/
def recordResponse (span : SpanContext) (response : Option Response) : Code Ctx H Unit :=
  onlySome response fun response => do
    onlySome response.statusCode fun code => do
      setAttribute F span "http.response.status_code" (.int code)
      onlyIf (decide (400 ≤ code)) (setStatus F span .error none)
    recordUrl F r span (some response)

variable [Propagator Ctx]

/-- `with tracer.start_as_current_span(...) as span: body`. -/
def startAsCurrentSpan (name : String) (kind : SpanKind) (context : Option Ctx)
    (attributes : Dict) (body : SpanContext → Code Ctx H α) : Code Ctx H α := do
  let span ← startSpan F name kind context attributes
  useSpan F span (body span)

/-- `except Exception as e: if span.is_recording(): handler; raise`. -/
def onException (span : SpanContext) (handler : Exn → Code Ctx H Unit) (body : Code Ctx H α) :
    Code Ctx H α :=
  tryExcept body fun e => do
    onlyIf e.isException do
      mayRaise F .isRecording
      onlyIf (isRecording Ctx span) (handler e)
    raise e

/-- `span.set_status(Status(StatusCode.ERROR, str(exc)))`. -/
def setErrorStatus (span : SpanContext) (e : Exn) : Code Ctx H Unit := do
  let text ← liftExcept e.str
  setStatus F span .error (some text)

end

end OtelOpenstack.Http

/-! ### keystoneauth1 -/

namespace OtelOpenstack.KeystoneAuth

open Effects Python Otel ContextApi Carriers Http

def serviceType (dicts : List Dict) (kwargs : Kwargs) : Except Exn (Option String) := do
  let endpointFilter := (kwargs.lookup "endpoint_filter").getD (.val .none)
  if endpointFilter.isMapping then do
    let service ← endpointFilter.get dicts "service_type" .none
    if ← service.truth then do
      let text ← service.text
      pure (some text)
    else pure none
  else pure none

def spanName (method path : String) : String := if path ≠ "" then s!"{method} {path}" else method

/-- The attributes of the client span. -/
def attributes {α : Type} (r : Reading α) (dicts : List Dict) (method url : String)
    (service : Option String) (requestId : Arg) : Except Exn Dict := do
  let service : Dict := match service with
    | none => []
    | some s => if s = "" then [] else [("openstack.service_type", .str s)]
  let known : Dict := [("http.request.method", .str method), ("http.route", .str url)] ++ service
  if ← requestId.truth dicts then do
    let text ← r.text requestId
    pure (known ++ [("messaging.message.conversation_id", .str text)])
  else pure known

/-- The copy of the caller's headers. -/
def copyHeaders (dicts : List Dict) (kwargs : Kwargs) : Except Exn Dict := do
  let headers ← ((kwargs.lookup "headers").getD (.val .none)).orEmpty dicts
  headers.toDict dicts

section

variable {Ctx H α : Type} [Propagator Ctx] (F : Faults) (r : Reading α)

omit [Propagator Ctx] in
def recordError (span : SpanContext) (e : Exn) : Code Ctx H Unit := do
  onlySome (r.httpStatus e) fun code =>
    setAttribute F span "http.response.status_code" (.int code)
  recordUrl F r span (r.errorResponse e)

def requestWrapper (wrapped : Wrapped Ctx H α) (args : Args) (kwargs : Kwargs) :
    Code Ctx H α := do
  mayRaise F (.other "is_instrumentation_enabled")
  let c ← getCurrent
  if !enabled c then wrapped args kwargs
  else do
    let dicts ← reads World.dicts
    let method ← liftExcept (httpMethod r dicts args kwargs)
    let url ← liftExcept (httpUrl dicts args kwargs)
    let service ← liftExcept (serviceType dicts kwargs)
    let requestId := (kwargs.lookup "global_request_id").getD (.val .none)
    let parsed ← liftExcept (r.urlparse url)
    let attributes ← liftExcept (attributes r dicts method url service requestId)
    startAsCurrentSpan F (spanName method parsed.path) .client none attributes fun span => do
      let copy ← liftExcept (copyHeaders dicts kwargs)
      let headers ← newDict copy
      inject F (.dict headers)
      let response ← onException F span (recordError F r span)
        (wrapped args (setKwarg kwargs "headers" (.dict headers)))
      mayRaise F .isRecording
      onlyIf (isRecording Ctx span) (recordResponse F r span (r.response response))
      pure response

end

end OtelOpenstack.KeystoneAuth

/-! ### openstacksdk -/

namespace OtelOpenstack.OpenStackSdk

open Effects Python Otel ContextApi Carriers Http

/-- What is read of an `openstack.proxy.Proxy`. -/
structure Proxy where
  connectionRequestId : Except Exn Arg
  serviceType : Except Exn Val
  regionName : Except Exn Val
  extractName : String → Val → Except Exn (List String)

/-- A proxy that names nothing. -/
def Proxy.plain : Proxy := ⟨.ok (.val .none), .ok .none, .ok .none, fun _ _ => .ok []⟩

def isNone : Arg → Bool
  | .val .none => true
  | _ => false

def globalRequestId (proxy : Proxy) (dicts : List Dict) (args : Args) (kwargs : Kwargs) :
    Except Exn Arg := do
  let given := (kwargs.lookup "global_request_id").getD (.val .none)
  let requestId := match args[5]? with
    | some a => if isNone given then a else given
    | none => given
  if ← requestId.truth dicts then pure requestId else proxy.connectionRequestId

/-- An attribute that is recorded as it is, if it is true. -/
def ifTrue (key : String) (v : Val) : Except Exn Dict := do
  if ← v.truth then pure [(key, v)] else pure []

def attributes {α : Type} (r : Reading α) (dicts : List Dict) (method url : String)
    (service region : Val) (requestId : Arg) : Except Exn Dict := do
  let service ← ifTrue "openstack.service_type" service
  let region ← ifTrue "openstack.region_name" region
  let known : Dict :=
    [("http.request.method", .str method), ("http.route", .str url)] ++ service ++ region
  if ← requestId.truth dicts then do
    let text ← r.text requestId
    pure (known ++ [("messaging.message.conversation_id", .str text)])
  else pure known

/-- The copy of the caller's headers; `None` is not taken for no headers here. -/
def copyHeaders (dicts : List Dict) (kwargs : Kwargs) : Except Exn Dict :=
  match kwargs.lookup "headers" with
  | none => .ok []
  | some headers => headers.toDict dicts

section

variable {Ctx H α : Type} [Propagator Ctx] (F : Faults) (r : Reading α)

def requestWrapper (proxy : Proxy) (wrapped : Wrapped Ctx H α) (args : Args) (kwargs : Kwargs) :
    Code Ctx H α := do
  mayRaise F (.other "is_instrumentation_enabled")
  let c ← getCurrent
  if !enabled c then wrapped args kwargs
  else do
    let dicts ← reads World.dicts
    let method ← liftExcept (httpMethod r dicts args kwargs)
    let url ← liftExcept (httpUrl dicts args kwargs)
    let requestId ← liftExcept (globalRequestId proxy dicts args kwargs)
    let service ← liftExcept proxy.serviceType
    let region ← liftExcept proxy.regionName
    let names ← liftExcept (proxy.extractName url service)
    let attributes ← liftExcept (attributes r dicts method url service region requestId)
    startAsCurrentSpan F (method ++ " " ++ String.intercalate "." names) .client none attributes
      fun span => do
        let copy ← liftExcept (copyHeaders dicts kwargs)
        let headers ← newDict copy
        inject F (.dict headers)
        let response ← wrapped args (setKwarg kwargs "headers" (.dict headers))
        mayRaise F .isRecording
        onlyIf (isRecording Ctx span) (recordResponse F r span (r.response response))
        pure response

end

end OtelOpenstack.OpenStackSdk

/-! ### keystonemiddleware -/

namespace OtelOpenstack.KeystoneMiddleware

open Effects Python Otel ContextApi Carriers Http

/-- The key the getter looks a header up under. -/
def environKey (key : String) : String :=
  String.ofList ("HTTP_".toList ++
    key.toList.map fun c => if c.toUpper = '-' then '_' else c.toUpper)

/-- `_WSGIEnvironGetter.get`. -/
def environGetter (environ : Dict) (key : String) : Except Exn (Option (List Val)) :=
  match (environ.get (environKey key)).getD .none with
  | .none => .ok none
  | value => .ok (some [value])

/-- `key.startswith("HTTP_")`. -/
def isHeaderKey (key : String) : Bool := "HTTP_".toList.isPrefixOf key.toList

/-- `_WSGIEnvironGetter.keys`. -/
def environKeys (environ : Dict) : List String :=
  (environ.filter fun item => isHeaderKey item.1).map fun item =>
    String.ofList ((item.1.toList.drop 5).map fun c => if c = '_' then '-' else c.toLower)

/-- `str(environ.get(key) or "")`. -/
def textOf (environ : Dict) (key : String) : Except Exn String := do
  let value := (environ.get key).getD .none
  if ← value.truth then value.text else pure ""

/-- An attribute, if the environment has a true value for it. -/
def environAttribute (environ : Dict) (key name : String) : Except Exn Dict := do
  let value := (environ.get key).getD .none
  if ← value.truth then do
    let text ← value.text
    pure [(name, .str text)]
  else pure []

section

variable {Ctx H α : Type} (F : Faults) (r : Reading α)

def requestAttributes (dicts : List Dict) : Arg → Except Exn Dict
  | .dict ref => do
    let environ := deref dicts ref
    let method ← environAttribute environ "REQUEST_METHOD" "http.request.method"
    let path ← environAttribute environ "PATH_INFO" "url.path"
    let scheme ← environAttribute environ "wsgi.url_scheme" "url.scheme"
    let host ← environAttribute environ "SERVER_NAME" "server.address"
    let port : Dict := match (environ.get "SERVER_PORT").bind r.int with
      | none => []
      | some port => [("server.port", .int port)]
    pure (method ++ path ++ scheme ++ host ++ port)
  | _ => .ok []

def requestSpanName (dicts : List Dict) : Arg → Except Exn String
  | .dict ref => do
    let method ← textOf (deref dicts ref) "REQUEST_METHOD"
    let path ← textOf (deref dicts ref) "PATH_INFO"
    let method := r.upper method
    if method ≠ "" ∧ path ≠ "" then pure s!"{method} {path}"
    else if method ≠ "" then pure method
    else pure "keystonemiddleware.request"
  | _ => .ok "keystonemiddleware.request"

def statusCode : Val → Option ℤ
  | .str line => r.int (.str (((strip line).splitOn " ").headD ""))
  | _ => none

def recordStatus (span : SpanContext) (status : Val) : Code Ctx H Unit :=
  match statusCode r status with
  | none => pure ()
  | some code => do
    setAttribute F span "http.response.status_code" (.int code)
    onlyIf (decide (500 ≤ code)) (setStatus F span .error none)

/-- `start_response`: the status, the other arguments, and the `write` it returns. -/
abbrev StartResponse (Ctx H : Type) := Val → Args → Code Ctx H Arg

/-- A call of `__call__`: the standard one, or any other. -/
inductive Invocation (Ctx H : Type)
  | wsgi (environ : Arg) (startResponse : StartResponse Ctx H)
  | other (args : Args) (kwargs : Kwargs)

variable [Propagator Ctx]

def environParentContext (environ : Arg) : Code Ctx H (Option Ctx × SpanKind) := do
  let c ← getCurrent
  if (spanIn c).isValid then pure (none, .internal)
  else match environ with
    | .dict ref => do
      mayRaise F .extract
      let dicts ← reads World.dicts
      let parent ← liftExcept (Propagator.extract (environGetter (deref dicts ref)))
      pure (some parent, .server)
    | _ => pure (none, .server)

def callWrapper (wrapped : Invocation Ctx H → Code Ctx H α) :
    Invocation Ctx H → Code Ctx H α
  | .other args kwargs => do
    mayRaise F (.other "is_instrumentation_enabled")
    wrapped (.other args kwargs)
  | .wsgi environ startResponse => do
    mayRaise F (.other "is_instrumentation_enabled")
    let c ← getCurrent
    if !enabled c then wrapped (.wsgi environ startResponse)
    else do
      let (parent, kind) ← environParentContext F environ
      let dicts ← reads World.dicts
      let attributes ← liftExcept (requestAttributes r dicts environ)
      let name ← liftExcept (requestSpanName r dicts environ)
      startAsCurrentSpan F name kind parent attributes fun span => do
        let captured ← newDict []
        let tracedStartResponse : StartResponse Ctx H := fun status rest => do
          setItem (.dict captured) "status" status
          startResponse status rest
        let result ← onException F span (setErrorStatus F span)
          (wrapped (.wsgi environ tracedStartResponse))
        mayRaise F .isRecording
        onlyIf (isRecording Ctx span) do
          let dicts ← reads World.dicts
          recordStatus F r span (((deref dicts captured).get "status").getD .none)
        pure result

end

end OtelOpenstack.KeystoneMiddleware
