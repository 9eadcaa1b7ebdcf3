import GatewayOperator.Cluster.Http
import GatewayOperator.Pass.Program
import GatewayOperator.Schema.Parser

namespace GatewayOperator.Cluster

-- The collection in which a namespace holds the objects of a kind.
def collectionPath (kind : Kind) (ns : String) : String :=
  let within (root plural : String) : String := root ++ "/namespaces/" ++ ns ++ "/" ++ plural
  match kind with
  | .gateway => within ("/apis/" ++ apiVersion) "aigateways"
  | .configMap => within "/api/v1" "configmaps"
  | .deployment => within "/apis/apps/v1" "deployments"
  | .service => within "/api/v1" "services"

def classesPath : String := "/apis/" ++ apiVersion ++ "/aigatewayclasses"

def objectPath (kind : Kind) (ns name : String) : String := collectionPath kind ns ++ "/" ++ name

def jsonType : String := "application/json"

def mergePatchType : String := "application/merge-patch+json"

-- A request to the target in a text.
def addressed (method : Method) (target : String) (body : Option (String × Json) := none) :
    Except ApiError Request :=
  match Target.parse target with
  | .ok target => .ok { method, target, contentType := body.map (·.1), body := body.map (·.2) }
  | .error fault => .error (.unaddressable fault)

def named (name : String) (request : Except ApiError Request) : Except ApiError Request :=
  if name = "" then .error .unnamed else request

def statusPatch (status : GatewayStatus) : Json := .object [("status", status.toJson)]

-- Reading, creating and listing ends the target with a question mark, as a query could follow.
def requestOf : Call → Except ApiError Request
  | .get kind ns name => named name (addressed .get (objectPath kind ns name))
  | .listClasses => addressed .get (classesPath ++ "?")
  | .create kind ns object =>
    addressed .post (collectionPath kind ns ++ "?") (some (jsonType, kind.toJson object))
  | .replace kind ns object =>
    named (kind.nameOf object)
      (addressed .put (objectPath kind ns (kind.nameOf object) ++ "?")
        (some (jsonType, kind.toJson object)))
  | .putStatus g status =>
    named g.name
      (addressed .patch (objectPath .gateway (g.metadata.ns.getD "") g.name ++ "/status?")
        (some (mergePatchType, statusPatch status)))

def errorAttributes : Schema.Attributes :=
  [Schema.must "status" .string, Schema.defaulted "message" .string,
   Schema.defaulted "reason" .string, Schema.must "code" .nat16]

def errorSchema : Schema := .strict "ErrorResponse" errorAttributes

def readErrorResponse : Json.Reader ErrorResponse := Schema.readStrict errorAttributes fun fs =>
  ErrorResponse.mk
    <$> fs.required "status" Json.readString
    <*> fs.orDefault "message" "" Json.readString
    <*> fs.orDefault "reason" "" Json.readString
    <*> fs.required "code" Json.readNat16

-- Why a text is not read, where `fault` is known of its document already.
def complaint (schema : Schema) (text : String) (fault : Json.Fault) : String :=
  match schema.parse text with
  | .error e => e.message
  | .ok _ => fault.message

-- The value of a body, or why it cannot be read.
def Body.read {α : Type} (schema : Schema) (read : Json.Reader α) : Body → Except String α
  | document content =>
    (read content.transferred).mapError (complaint schema content.render)
  | text content => do
    let j ← (schema.parse content).mapError Json.TextError.message
    (read j).mapError Json.Fault.message

-- What an error status says, as the server tells it or else as far as the client can tell.
def errorOf (r : Response) : ErrorResponse :=
  (r.body.read errorSchema readErrorResponse).toOption.getD
    { status := statusText r.status, message := quoted r.body.content,
      reason := "Failed to parse error data", code := r.status }

def decode {α : Type} (schema : Schema) (read : Json.Reader α) (r : Response) :
    Except ApiError α :=
  if isError r.status then .error (.refused (errorOf r))
  else (r.body.read schema read).mapError .unreadable

-- The error by which a server says that an object does not exist
def saysNotFound : ApiError → Bool
  | .refused response => response.reason = "NotFound"
  | _ => false

def listMeta : Schema := .plain "ListMeta"
  [Schema.may "continue" .string, Schema.may "remainingItemCount" .int64,
   Schema.may "resourceVersion" .string, Schema.may "selfLink" .string]

def classListSchema : Schema := .record .whole "ObjectList"
  [Schema.defaulted "metadata" listMeta, ("items", .given, .list GatewayClass.schema)]

-- The metadata of a list is read, though nobody asks for it.
def readClassList : Json.Reader (List GatewayClass) := Json.readRecord fun fs =>
  (fun (_ : Json) (items : Option (List GatewayClass)) => items.getD [])
    <$> fs.orDefault "metadata" .null listMeta.read
    <*> fs.required "items" (Json.readOption (Json.readList GatewayClass.read))

def decodeObject (kind : Kind) (r : Response) : Except ApiError kind.Object :=
  decode kind.schema kind.read r

def replyOf (r : Response) : (c : Call) → c.Reply
  | .get kind _ _ =>
    match decodeObject kind r with
    | .ok object => .ok (some object)
    | .error e => if saysNotFound e then .ok none else .error e
  | .listClasses => decode classListSchema readClassList r
  | .create kind _ _ => (fun _ => ()) <$> decodeObject kind r
  | .replace kind _ _ => (fun _ => ()) <$> decodeObject kind r
  | .putStatus _ _ => (fun _ => ()) <$> decodeObject .gateway r

end GatewayOperator.Cluster
