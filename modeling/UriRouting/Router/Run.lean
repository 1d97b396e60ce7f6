import UriRouting.Router

/-! # Runs of a router

A router lives through a series of operations. Each one has a reply, and the router goes on from
what the operation left: one that was refused leaves the router as it was, and so does every one
that only asks.
-/

namespace UriRouting.Router

inductive Operation where
  | mount (route : Route) (view : View)
  | setFallback (view? : Option View)
  | setStrict (strict : Bool)
  | resolve (uri : String)
  | navigate (uri : String)

inductive Reply where
  | changed
  | rejected (rejection : Strict.Rejection)
  | resolved (result : Except Utf8.Fault (Option (Nat × Mount × Match)))
  | navigated (result : Except NavigationFailure Outcome)

/-- The router that an attempt to change it leaves, and the reply. -/
def settle (router : Router) : Except Strict.Rejection Router → Router × Reply
  | .ok changed => (changed, .changed)
  | .error rejection => (router, .rejected rejection)

section

variable (validator : Validator)

def perform (router : Router) : Operation → Router × Reply
  | .mount route view => router.settle (router.mount route view)
  | .setFallback view? => router.settle (router.setFallback view?)
  | .setStrict strict => (router.setStrict strict, .changed)
  | .resolve uri => (router, .resolved (router.resolve uri))
  | .navigate uri => (router, .navigated (router.navigate validator uri))

def run (router : Router) : List Operation → Router × List Reply
  | [] => (router, [])
  | operation :: later =>
    let (after, reply) := router.perform validator operation
    let (final, replies) := run after later
    (final, reply :: replies)

end

end UriRouting.Router
