/-! Messages gathered under routes, so that one check reports every problem. -/
namespace RecordStore

/-- Messages at this route, and a tree for each further step, in the order of the keys. -/
inductive ErrorTree
  | node (messages : List String) (children : List (String × ErrorTree))
  deriving Repr

namespace ErrorTree

def empty : ErrorTree := node [] []

instance : Inhabited ErrorTree := ⟨empty⟩

def messages : ErrorTree → List String
  | node ms _ => ms

def children : ErrorTree → List (String × ErrorTree)
  | node _ cs => cs

/-- Changes the tree under a key, which starts empty, and keeps the keys in order. -/
def updateKey (key : String) (f : ErrorTree → ErrorTree) :
    List (String × ErrorTree) → List (String × ErrorTree)
  | [] => [(key, f empty)]
  | (k, t) :: rest =>
    if key = k then (k, f t) :: rest
    else if key < k then (key, f empty) :: (k, t) :: rest
    else (k, t) :: updateKey key f rest

def updateChild (key : String) (f : ErrorTree → ErrorTree) : ErrorTree → ErrorTree
  | node ms cs => node ms (updateKey key f cs)

def append (t : ErrorTree) (ms : List String) : ErrorTree := node (t.messages ++ ms) t.children

def add (message : String) (t : ErrorTree) : ErrorTree := t.append [message]

def addFor (key message : String) (t : ErrorTree) : ErrorTree := t.updateChild key (add message)

mutual

def isEmpty : ErrorTree → Bool
  | node ms cs => ms.isEmpty && allEmpty cs

def allEmpty : List (String × ErrorTree) → Bool
  | [] => true
  | (_, t) :: rest => t.isEmpty && allEmpty rest

end

mutual

def size : ErrorTree → Nat
  | node ms cs => ms.length + totalSize cs

def totalSize : List (String × ErrorTree) → Nat
  | [] => 0
  | (_, t) :: rest => t.size + totalSize rest

end

mutual

/-- The tree with the messages of another added route by route. -/
def merge (t : ErrorTree) : ErrorTree → ErrorTree
  | node ms cs => mergeAll (t.append ms) cs

/-- The tree with the messages of several trees added under their keys, empty ones skipped. -/
def mergeAll (t : ErrorTree) : List (String × ErrorTree) → ErrorTree
  | [] => t
  | (key, u) :: rest =>
    mergeAll (if u.isEmpty then t else t.updateChild key fun c => c.merge u) rest

end

/-- The tree with the messages of another added one step below. -/
def mergeFor (t : ErrorTree) (key : String) (other : ErrorTree) : ErrorTree :=
  if other.isEmpty then t else t.updateChild key fun c => c.merge other

/-- A route and one step more; the empty route leaves no mark. -/
def step (route key : String) : String := if route.isEmpty then key else route ++ "." ++ key

mutual

/-- The messages below a route with their routes, each tree before its children. -/
def flattenFrom (route : String) : ErrorTree → List (String × String)
  | node ms cs => ms.map (route, ·) ++ flattenAll route cs

def flattenAll (route : String) : List (String × ErrorTree) → List (String × String)
  | [] => []
  | (key, t) :: rest => flattenFrom (step route key) t ++ flattenAll route rest

end

/-- Every message with its route; the route of the tree itself is empty. -/
def flatten (t : ErrorTree) : List (String × String) := flattenFrom "" t

/-- One line for each message, with its route in front. -/
def render (t : ErrorTree) : String :=
  "\n".intercalate (t.flatten.map fun (route, m) => if route.isEmpty then m else route ++ ": " ++ m)

def result (t : ErrorTree) : Except ErrorTree Unit := if t.isEmpty then .ok () else .error t

@[simp] theorem isEmpty_empty : empty.isEmpty = true := rfl

@[simp] theorem size_empty : empty.size = 0 := rfl

@[simp] theorem flatten_empty : empty.flatten = [] := rfl

end ErrorTree

end RecordStore
