/-!
Requests relative to the base address of a server, and its answers.
-/
namespace PipelineObserver

inductive Method where
  | get
  | post
  | patch
  deriving DecidableEq

def Method.name : Method → String
  | get => "GET"
  | post => "POST"
  | patch => "PATCH"

structure Request where
  method : Method
  path : String
  -- Query parameters, in the order in which they were added.
  query : List (String × String) := []
  headers : List (String × String) := []
  body : Option String := none
  deriving DecidableEq

namespace Request

def withQuery (r : Request) (key value : String) : Request :=
  { r with query := r.query ++ [(key, value)] }

def withHeader (r : Request) (key value : String) : Request :=
  { r with headers := r.headers ++ [(key, value)] }

def withBody (r : Request) (body : String) : Request := { r with body := some body }

def get (path : String) : Request := { method := .get, path := path }

def post (path body : String) : Request :=
  (({ method := .post, path := path } : Request).withHeader "Content-Type" "application/json"
    |>.withHeader "Accept" "application/json").withBody body

/-- Changes a resource by a JSON merge patch. -/
def mergePatch (path body : String) : Request :=
  (({ method := .patch, path := path } : Request).withHeader "Content-Type"
      "application/merge-patch+json"
    |>.withHeader "Accept" "application/json").withBody body

def queryValue? (r : Request) (key : String) : Option String :=
  (r.query.find? (·.1 = key)).map (·.2)

end Request

/-- An answer that was read to its end. -/
structure Response where
  status : Nat
  body : String
  deriving DecidableEq

def Response.isSuccess (r : Response) : Bool := 200 ≤ r.status ∧ r.status < 300

end PipelineObserver
