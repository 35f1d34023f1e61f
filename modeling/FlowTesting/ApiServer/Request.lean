import FlowTesting.Http.Message
import FlowTesting.Http.Target
import FlowTesting.Resource.Type

set_option autoImplicit false

/-!
# Requests to the API server

Objects are read, created, changed and deleted at the path of their type, namespace and
name, and listed in all namespaces at the path of their type. Changes are merge patches,
and those of a status say who makes them.
-/

namespace FlowTesting.ApiServer

def fieldManager : String := "logging-pipeline-plumber"

def path (type : ResourceType) (namespaceName? : Option String) : String :=
  let root := if type.group = "" then "/api" else "/apis/" ++ type.group
  let scope := match namespaceName? with
    | some namespaceName => "namespaces/" ++ namespaceName ++ "/"
    | none => ""
  root ++ "/" ++ type.version ++ "/" ++ scope ++ type.plural

/-- The path of one object, which has to have a name. -/
def objectPath (type : ResourceType) (namespaceName name : String) : Except RequestFault String :=
  if name = "" then .error .emptyName
  else .ok (path type (some namespaceName) ++ "/" ++ name)

def reading (path : String) (query? : Option (List (String × String))) :
    Except RequestFault Http.Request :=
  (Http.Target.parse path query?).map (fun target =>
    { method := .get, path := target.path, query := target.query })

def writing (method : Http.Method) (path : String) (query : List (String × String))
    (contentType : String) (body : Json) : Except RequestFault Http.Request :=
  (Http.Target.parse path (some query)).map (fun target =>
    { method, path := target.path, query := target.query, contentType? := some contentType
      body? := some body })

/-- Reads one object, at its path without a question mark. -/
def getRequest (type : ResourceType) (namespaceName name : String) :
    Except RequestFault Http.Request := do
  reading (← objectPath type namespaceName name) none

def listRequest (type : ResourceType) (selector? : Option String) :
    Except RequestFault Http.Request :=
  reading (path type none)
    (some (selector?.toList.map (fun selector => ("labelSelector", selector))))

def createRequest (type : ResourceType) (namespaceName : String) (object : Json) :
    Except RequestFault Http.Request :=
  writing .post (path type (some namespaceName)) [] Http.jsonType object

def patchRequest (type : ResourceType) (namespaceName name : String) (patch : Json) :
    Except RequestFault Http.Request := do
  writing .patch (← objectPath type namespaceName name) [] Http.mergePatchType patch

def patchStatusRequest (type : ResourceType) (namespaceName name : String) (patch : Json) :
    Except RequestFault Http.Request := do
  writing .patch ((← objectPath type namespaceName name) ++ "/status")
    [("fieldManager", fieldManager)] Http.mergePatchType patch

def deleteRequest (type : ResourceType) (namespaceName name : String) :
    Except RequestFault Http.Request := do
  writing .delete (← objectPath type namespaceName name) [] Http.jsonType (.ofMembers [])

end FlowTesting.ApiServer
