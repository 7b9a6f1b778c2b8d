import OtelOpenstack.Http

/-!
The authentication span: the wrapper around the `process_request` of keystonemiddleware, and
what it records of the request.

Recording comes after authentication, and reads properties of the request that may raise. The
tokens are read inside of `try`; the identity is not.
-/

set_option autoImplicit false

namespace OtelOpenstack.Authentication

open Effects Python Otel ContextApi Carriers Http

/-! ### Requests -/

/-- The roles of a user: their truth, and what iterating over them gives, raising included. -/
structure RoleNames where
  truth : Except Exn Bool
  items : List (Except Exn Val)

/-- `AccessInfo`; a missing property raises `AttributeError`. -/
structure AuthRef where
  userId : Except Exn Val
  username : Except Exn Val
  projectId : Except Exn Val
  projectName : Except Exn Val
  domainId : Except Exn Val
  roleNames : Except Exn (Option RoleNames)

/-- `None` is `none`, here and in the user it has. -/
abbrev TokenAuth := Option (Except Exn (Option AuthRef))

/-- What is read of a request once it has been processed. -/
structure Fields where
  userToken : Except Exn Val
  userTokenValid : Except Exn Val
  serviceToken : Except Exn Val
  serviceTokenValid : Except Exn Val
  tokenAuth : Except Exn TokenAuth

/-- A parameter of `process_request`, as far as it is read; `None` is one. -/
structure Request (H : Type) where
  isNone : Bool
  headers : H → Except Exn Arg
  fields : H → Fields

/-- `getattr(obj, name, default)`, of what reading the attribute gives. -/
def getattr {α : Type} (read : Except Exn α) (default : α) : Except Exn α :=
  match read with
  | .ok v => .ok v
  | .error e => if e.isAttributeError then .ok default else .error e

def missing (name : String) : Exn := exn "AttributeError" s!"no attribute '{name}'"

/-- `None`. -/
def noRequest (H : Type) : Request H where
  isNone := true
  headers _ := .error (missing "headers")
  fields _ := ⟨.error (missing "user_token"), .error (missing "user_token_valid"),
    .error (missing "service_token"), .error (missing "service_token_valid"),
    .error (missing "token_auth")⟩

/-- `_request_arg`. -/
def requestArg {H : Type} (args : List (Request H)) (kwargs : List (String × Request H)) :
    Request H :=
  match args with
  | request :: _ => request
  | [] => (kwargs.lookup "request").getD (noRequest H)

/-! ### Reading -/

/-- `try: … except Exception: return default`. -/
def caught {α : Type} (read : Except Exn α) (default : α) : Except Exn α :=
  match read with
  | .ok v => .ok v
  | .error e => if e.isException then .ok default else .error e

def tokenPresent (read : Except Exn Val) : Except Exn Bool :=
  caught (do
    let token ← getattr read .none
    token.truth) false

def tokenValid (read : Except Exn Val) : Except Exn (Option Bool) :=
  caught (do
    let valid ← read
    let b ← valid.truth
    pure (some b)) none

/-- `getattr(token_auth, "user", None)`. -/
def userOf (tokenAuth : TokenAuth) : Except Exn (Option AuthRef) :=
  match tokenAuth with
  | none => .ok none
  | some user => getattr user none

/-- `tuple(str(r) for r in role_names)`. -/
def roleTexts : List (Except Exn Val) → Except Exn (List String)
  | [] => .ok []
  | item :: items => do
    let role ← item
    let text ← role.text
    let texts ← roleTexts items
    pure (text :: texts)

section

variable {Ctx H α : Type} (F : Faults) (tuple : List String → Val)

def setStr (span : SpanContext) (key : String) (value : Val) : Code Ctx H Unit := do
  let truth ← liftExcept value.truth
  onlyIf truth do
    let text ← liftExcept value.text
    setAttribute F span key (.str text)

/-- `_set_str(span, key, getattr(auth_ref, name, None))`. -/
def setField (span : SpanContext) (key : String) (read : Except Exn Val) : Code Ctx H Unit := do
  let value ← liftExcept (getattr read .none)
  setStr F span key value

/-- The roles; a tuple of texts is what `tuple` makes of them. -/
def setRoles (span : SpanContext) (read : Except Exn (Option RoleNames)) : Code Ctx H Unit := do
  let roleNames ← liftExcept (getattr read none)
  onlySome roleNames fun roleNames => do
    let truth ← liftExcept roleNames.truth
    onlyIf truth do
      let texts ← liftExcept (roleTexts roleNames.items)
      setAttribute F span "user.roles" (tuple texts)

def recordIdentity (span : SpanContext) (fields : Fields) : Code Ctx H Unit := do
  let tokenAuth ← liftExcept (getattr fields.tokenAuth none)
  let authRef ← liftExcept (userOf tokenAuth)
  onlySome authRef fun authRef => do
    setField F span "user.id" authRef.userId
    setField F span "user.name" authRef.username
    setField F span "openstack.project_id" authRef.projectId
    setField F span "openstack.project_name" authRef.projectName
    setField F span "openstack.domain_id" authRef.domainId
    setRoles F tuple span authRef.roleNames

/-- A token: whether it is there and, if so, whether it is valid. -/
def recordToken (span : SpanContext) (presentKey validKey : String) (token valid : Except Exn Val) :
    Code Ctx H (Option Bool) := do
  let present ← liftExcept (tokenPresent token)
  setAttribute F span presentKey (.bool present)
  if present then do
    let valid ← liftExcept (tokenValid valid)
    onlySome valid fun valid => setAttribute F span validKey (.bool valid)
    pure valid
  else pure none

def recordRequest (span : SpanContext) (request : Request H) : Code Ctx H Unit :=
  if request.isNone then pure ()
  else do
    let fields ← reads fun w => request.fields w.host
    let userValid ← recordToken F span "keystonemiddleware.user_token.present"
      "keystonemiddleware.user_token.valid" fields.userToken fields.userTokenValid
    let _ ← recordToken F span "keystonemiddleware.service_token.present"
      "keystonemiddleware.service_token.valid" fields.serviceToken fields.serviceTokenValid
    onlyIf (userValid == some true) (recordIdentity F tuple span fields)

variable [Propagator Ctx]

/-- `_parent_context`. -/
def parentContext (request : Request H) : Code Ctx H (Option Ctx × SpanKind) := do
  let c ← getCurrent
  if (spanIn c).isValid then pure (none, .internal)
  else do
    let read ← reads fun w => request.headers w.host
    match ← liftExcept (getattr read (.val .none)) with
    | .val .none => pure (none, .server)
    | headers => do
      let parent ← extract F headers
      pure (some parent, .server)

def processRequestWrapper (wrapped : List (Request H) → List (String × Request H) → Code Ctx H α)
    (args : List (Request H)) (kwargs : List (String × Request H)) : Code Ctx H α := do
  mayRaise F (.other "is_instrumentation_enabled")
  let c ← getCurrent
  if !enabled c then wrapped args kwargs
  else do
    let request := requestArg args kwargs
    let (parent, kind) ← parentContext F request
    startAsCurrentSpan F "keystonemiddleware.authenticate" kind parent [] fun span => do
      let result ← onException F span
        (fun e => do
          setErrorStatus F span e
          recordRequest F tuple span request)
        (wrapped args kwargs)
      mayRaise F .isRecording
      onlyIf (isRecording Ctx span) (recordRequest F tuple span request)
      pure result

end

end OtelOpenstack.Authentication
