import AsyncFiles.Host.Opening
import Mathlib.Tactic.ByContra

namespace AsyncFiles.Host

open Error

/-- Directories only gain entries, and the working directory stays. -/
structure Leads (host later : Host) : Prop where
  directory : ∀ number parent entries, host.node? number = some (.directory parent entries) →
    ∃ more, later.node? number = some (.directory parent (entries ++ more))
  workingDirectory : later.workingDirectory = host.workingDirectory

variable {host middle later : Host} {path : Path} {start number directory parent : Nat}
  {entries more : List (FileName × Nat)} {name : FileName} {names : List FileName}

theorem Leads.refl (host : Host) : host.Leads host where
  directory _ _ _ present := ⟨[], by rw [List.append_nil, present]⟩
  workingDirectory := rfl

theorem Leads.trans (first : host.Leads middle) (second : middle.Leads later) :
    host.Leads later where
  directory number parent entries present := by
    obtain ⟨more, standing⟩ := first.directory number parent entries present
    obtain ⟨further, found⟩ := second.directory number parent _ standing
    exact ⟨more ++ further, by rw [found, List.append_assoc]⟩
  workingDirectory := second.workingDirectory.trans first.workingDirectory

theorem findEntry_append (found : findEntry entries name = .ok (some number)) :
    findEntry (entries ++ more) name = .ok (some number) := by
  simp only [findEntry] at found ⊢
  split at found
  next => cases found
  next short =>
    simp only [Except.ok.injEq, Option.map_eq_some_iff] at found
    obtain ⟨entry, listed, rfl⟩ := found
    simp [short, List.find?_append, listed]

theorem isDirectory_leads (leads : host.Leads later) (there : host.isDirectory number = true) :
    later.isDirectory number = true := by
  simp only [isDirectory] at there ⊢
  split at there
  next parent entries present =>
    obtain ⟨more, found⟩ := leads.directory number parent entries present
    rw [found]
  next => cases there

theorem enter_leads (leads : host.Leads later) (entered : host.enter start name = .ok number) :
    later.enter start name = .ok number := by
  simp only [enter] at entered ⊢
  split at entered
  next parent entries present =>
    obtain ⟨more, found⟩ := leads.directory start parent entries present
    rw [found]
    simp only
    split at entered
    next here => rw [if_pos here, entered]
    next elsewhere =>
      rw [if_neg elsewhere]
      split at entered
      next up => rw [if_pos up, entered]
      next down =>
        rw [if_neg down]
        cases listed : findEntry entries name with
        | error errno => simp [listed, bind, Except.bind] at entered
        | ok entry =>
          cases entry with
          | none => simp [listed, bind, Except.bind] at entered
          | some inode =>
            simp only [listed, bind, Except.bind] at entered
            simp only [findEntry_append listed, bind, Except.bind, entered]
  next => cases entered

theorem walk_leads (leads : host.Leads later) (walked : host.walk start names = .ok number) :
    later.walk start names = .ok number := by
  induction names generalizing start with
  | nil => exact walked
  | cons name names ih =>
    simp only [walk, List.foldlM_cons] at walked ⊢
    cases entered : host.enter start name with
    | error errno => simp [entered, bind, Except.bind] at walked
    | ok inode =>
      rw [enter_leads leads entered]
      simp only [entered, bind, Except.bind] at walked ⊢
      exact ih walked

def Place.within (directory : Nat) (entries : List (FileName × Nat)) (parent : Nat)
    (name : FileName) : Place :=
  if name = dot then .known directory
  else if name = dotDot then .known parent
  else .named directory entries parent name

theorem place_walked (nonempty : ¬path.bytes.isEmpty = true) (short : ¬4095 < path.bytes.length)
    (last : path.components.getLast? = some name)
    (walked : host.walk (if path.isAbsolute then 0 else host.workingDirectory)
      path.components.dropLast = .ok directory)
    (present : host.node? directory = some (.directory parent entries)) :
    host.place path = .ok (.within directory entries parent name) := by
  simp only [Host.place, if_neg nonempty, if_neg short, last, walked, bind, Except.bind, present,
    Place.within]
  split
  next => rfl
  next => split <;> rfl

/-- A path goes on to end where it ended: in the same directory as itself, or under the same name in
a directory that may have gained entries. -/
def EndsUp (host later : Host) (path : Path) : Place → Prop
  | .known number => later.place path = .ok (.known number)
  | .named directory entries parent name =>
    host.node? directory = some (.directory parent entries) ∧
      ∀ grown, later.node? directory = some (.directory parent grown) →
        later.place path = .ok (.named directory grown parent name)

theorem endsUp_within (leads : host.Leads later)
    (present : host.node? directory = some (.directory parent entries))
    (arrives : ∀ grown, later.node? directory = some (.directory parent grown) →
      later.place path = .ok (.within directory grown parent name)) :
    host.EndsUp later path (.within directory entries parent name) := by
  obtain ⟨more, found⟩ := leads.directory directory parent entries present
  have onwards := arrives _ found
  simp only [Place.within] at arrives onwards ⊢
  split
  next here => rwa [if_pos here] at onwards
  next elsewhere =>
    simp only [if_neg elsewhere] at arrives onwards
    split
    next up => rwa [if_pos up] at onwards
    next down =>
      simp only [if_neg down] at arrives
      exact ⟨present, arrives⟩

theorem place_leads {place : Place} (leads : host.Leads later)
    (placed : host.place path = .ok place) : host.EndsUp later path place := by
  by_cases nonempty : path.bytes.isEmpty = true
  · simp [Host.place, nonempty] at placed
  by_cases short : 4095 < path.bytes.length
  · simp [Host.place, nonempty, short] at placed
  cases last : path.components.getLast? with
  | none =>
    simp only [Host.place, if_neg nonempty, if_neg short, last, Except.ok.injEq] at placed
    subst placed
    simp only [EndsUp, Host.place, if_neg nonempty, if_neg short, last, leads.workingDirectory]
  | some name =>
    cases walked : host.walk (if path.isAbsolute then 0 else host.workingDirectory)
        path.components.dropLast with
    | error errno =>
      simp [Host.place, nonempty, short, last, walked, bind, Except.bind] at placed
    | ok directory =>
      have again := walk_leads leads walked
      rw [← leads.workingDirectory] at again
      have kind : ∃ parent entries, host.node? directory = some (.directory parent entries) := by
        simp only [Host.place, if_neg nonempty, if_neg short, last, walked, bind, Except.bind]
          at placed
        split at placed
        next parent entries present => exact ⟨parent, entries, present⟩
        next => cases placed
      obtain ⟨parent, entries, present⟩ := kind
      rw [place_walked nonempty short last walked present] at placed
      cases placed
      exact endsUp_within leads present fun _ found =>
        place_walked nonempty short last again found

theorem lookup_leads (leads : host.Leads later) (named : host.lookup path = .ok number) :
    later.lookup path = .ok number := by
  simp only [lookup] at named ⊢
  cases placed : host.place path with
  | error errno => simp [placed, bind, Except.bind] at named
  | ok place =>
    have ends := place_leads leads placed
    cases place with
    | known inode =>
      simp only [placed, bind, Except.bind] at named
      simp only [show later.place path = _ from ends, bind, Except.bind, named]
    | named directory entries parent name =>
      obtain ⟨more, found⟩ := leads.directory directory parent entries ends.1
      simp only [ends.2 _ found, placed, bind, Except.bind] at named ⊢
      cases listed : findEntry entries name with
      | error errno => simp [listed] at named
      | ok entry =>
        cases entry with
        | none => simp [listed] at named
        | some inode =>
          simp only [listed] at named
          simp only [findEntry_append listed]
          split at named
          next => cases named
          next fits =>
            cases named
            refine if_neg fun cut => fits ?_
            simp only [Bool.and_eq_true, Bool.not_eq_true'] at cut ⊢
            refine ⟨cut.1, ?_⟩
            by_contra there
            rw [isDirectory_leads leads (by simpa using there)] at cut
            exact nomatch cut.2

end AsyncFiles.Host
