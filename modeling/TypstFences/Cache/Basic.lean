import TypstFences.Cache.Store
import TypstFences.Engine.Basic

/-!
# Cache

Results by the digests of their requests. What has been computed once is remembered; artifacts are also
kept in a directory, if there is one, where later runs find them. A computation that ends in an error
is forgotten, so that it can be tried again.
-/

set_option autoImplicit false

namespace TypstFences

/-- The directory of the artifacts, the results remembered, and how often a result was found and had to
be computed. -/
structure Cache where
  directory : Option Path
  entries : List (Text × RenderResult)
  hits : Nat
  misses : Nat
  deriving DecidableEq, Inhabited

/-- A cache together with a rig: what the blocks of a pass share. -/
structure Session (ε : Type) where
  cache : Cache
  rig : Rig ε
  deriving Inhabited

namespace Cache

/-- A new cache that uses a directory; an empty name stands for none. -/
def new (directory : Option Text) : Cache where
  directory := (directory.filter fun name => !name.isEmpty).map Path.ofText
  entries := []
  hits := 0
  misses := 0

/-- The result remembered for a key. -/
def entry? (cache : Cache) (key : Text) : Option RenderResult := cache.entries.lookup key

/-- The cache with a result remembered for a key. -/
def remember (cache : Cache) (key : Text) (result : RenderResult) : Cache :=
  { cache with entries := cache.entries ++ [(key, result)] }

/-- The cache with one more result found. -/
def countHit (cache : Cache) : Cache := { cache with hits := cache.hits + 1 }

/-- The cache with one more result computed. -/
def countMiss (cache : Cache) : Cache := { cache with misses := cache.misses + 1 }

/-- The artifact of a key in the directory of the cache. -/
def load (cache : Cache) (key : Text) (host : Host) : Except PassError (Option Artifact) × Host :=
  match cache.directory with
  | none => (.ok none, host)
  | some directory => Store.load directory key host

/-- Keeping an artifact in the directory of the cache. -/
def save (cache : Cache) (key : Text) (artifact : Artifact) (host : Host) :
    Except FileError Unit × Host :=
  match cache.directory with
  | none => (.ok (), host)
  | some directory => Store.save directory key artifact host

end Cache

namespace Session

variable {ε : Type}

/-- The session with another host. -/
def withHost (session : Session ε) (host : Host) : Session ε :=
  { session with rig := { session.rig with host := host } }

/-- The session with a result for a key remembered. -/
def remember (session : Session ε) (key : Text) (result : RenderResult) : Session ε :=
  { session with cache := session.cache.remember key result }

/-- What becomes of a computed result: it is remembered, and an artifact is kept in the directory. If
it cannot be kept there, it is not remembered either. -/
def keep (key : Text) (result : RenderResult) (session : Session ε) :
    Except PassError RenderResult × Session ε :=
  match result with
  | .failure _ => (.ok result, session.remember key result)
  | .artifact artifact =>
    match session.cache.save key artifact session.rig.host with
    | (.ok (), host) => (.ok result, (session.withHost host).remember key result)
    | (.error error, host) => (.error (.refusedFile error), session.withHost host)

/-- The result for a key that is neither remembered nor kept in the directory. -/
def compute (key : Text) (computation : Rig ε → Except PassError RenderResult × Rig ε)
    (session : Session ε) : Except PassError RenderResult × Session ε :=
  match computation session.rig with
  | (.error error, rig) => (.error error, ⟨session.cache.countMiss, rig⟩)
  | (.ok result, rig) => keep key result ⟨session.cache.countMiss, rig⟩

/-- The result for a key: the one remembered, else the artifact kept in the directory, else the result
of a computation. -/
def result (key : Text) (computation : Rig ε → Except PassError RenderResult × Rig ε)
    (session : Session ε) : Except PassError RenderResult × Session ε :=
  match session.cache.entry? key with
  | some result => (.ok result, { session with cache := session.cache.countHit })
  | none =>
    match session.cache.load key session.rig.host with
    | (.error error, host) => (.error error, session.withHost host)
    | (.ok (some artifact), host) =>
      let session := session.withHost host
      (.ok (.artifact artifact),
        { session with cache := session.cache.countHit.remember key (.artifact artifact) })
    | (.ok none, host) => compute key computation (session.withHost host)

end Session

end TypstFences
