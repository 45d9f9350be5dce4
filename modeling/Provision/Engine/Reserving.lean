import Provision.Engine.Host
import Provision.Journal

/-!
# Mounting and reserving of huge pages

hugetlbfs is mounted where it is not mounted yet, and a pool is resized unless it
holds an acceptable number of pages already.  Pages are reserved only under a
mount.  When too few pages are granted they stay reserved, and the shortfall is
reported.

Main results:

- `Reserving.judge_eq_ok_iff`: a grant is accepted exactly when it is not below
  the required count.
-/

namespace Provision.Reserving

/-- Sees that hugetlbfs is mounted; gives the change, if there was one. -/
def mount (r : Reservation) : HostM (Option Change) := do
  if ← HostM.ask (.isMounted r.mountPath) then pure none
  else
    ExceptT.adapt (fun e => .mountUnavailable r.mountPath e.message)
      (HostM.ask (.mount r.mountPath r.pageKb))
    pure (some (.mounted r.mountPath r.pageKb))

/-- Whether the pages that were granted will do. -/
def judge (r : Reservation) (previous granted : Nat) : Except Error Change :=
  if granted < r.required then
    .error (.insufficientPages r.pageKb r.pool.place r.count r.required granted)
  else .ok (.reserved r.pool previous)

/-- A grant is accepted exactly when it is not below the required count. -/
theorem judge_eq_ok_iff (r : Reservation) (previous granted : Nat) :
    (∃ c, judge r previous granted = .ok c) ↔ r.required ≤ granted := by
  unfold judge
  split
  · simp; omega
  · simp; omega

/-- Asks a pool for the requested pages and reads back what was granted. -/
def resize (r : Reservation) (previous : Nat) : HostM Change := do
  HostM.ask (.setPageCount r.pool r.count)
  let granted ← HostM.ask (.pageCount r.pool)
  liftExcept (judge r previous granted)
where
  /-- A result as a program. -/
  liftExcept (x : Except Error Change) : HostM Change := ExceptT.mk (pure x)

/-- Sees that the pool holds an acceptable number of pages; gives the change, if there was one. -/
def reserve (r : Reservation) : HostM (Option Change) := do
  if ← HostM.ask (.isMounted r.mountPath) then
    let previous ← HostM.ask (.pageCount r.pool)
    if r.isMetBy previous then pure none else some <$> resize r previous
  else throw (.mountUnavailable r.mountPath "not mounted; refusing to reserve pages")

/-- Sets a pool back to an earlier count. -/
def restoreCount (pool : Pool) (previous : Nat) : HostM Unit :=
  HostM.ask (.setPageCount pool previous)

/-- Removes a mount. -/
def unmount (path : HostPath) : HostM Unit := HostM.ask (.unmount path)

end Provision.Reserving
