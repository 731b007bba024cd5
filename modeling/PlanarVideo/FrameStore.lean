import PlanarVideo.Decimator.Frame
import PlanarVideo.TestPattern

/-!
# A store of named frames

A store holds frames under names.  A `Command` makes a frame, changes one, or asks about one;
`FrameStore.run` carries it out and gives a `Reply`.  A command that fails leaves the store with
the frames it had.
-/

namespace PlanarVideo

/-- Frames under names. -/
structure FrameStore where
  /-- The named frames, the latest first. -/
  entries : List (String × Frame)

/-- Why a command was not carried out. -/
inductive StoreError
  /-- No frame has this name. -/
  | noFrame (name : String)
  /-- A new frame is not made. -/
  | blank (fault : BlankFault)
  /-- The samples for a plane are refused. -/
  | frame (error : FrameError)
  /-- A decimation is refused. -/
  | decimation (error : DecimationError)
  /-- A test pattern is refused. -/
  | pattern (fault : TestPattern.Fault)

/-- The wording of a store error. -/
def StoreError.message : StoreError → String
  | noFrame name => s!"no frame named {name}"
  | blank fault => fault.message
  | frame error => error.message
  | decimation error => error.message
  | pattern fault => fault.message

/-- What is asked of a store. -/
inductive Command
  /-- Makes a frame of zero samples. -/
  | blank (name : String) (width height : Nat) (chroma : ChromaFormat) (format : SampleFormat)
  /-- Copies a frame. -/
  | clone (name source : String)
  /-- Makes the two frames of the test pattern. -/
  | pattern (source destination : String) (width height : Nat) (format : SampleFormat)
  /-- Overwrites the first samples of a plane, if it stores samples of that kind. -/
  | overwrite (name : String) (component : Component) (values : SampleBuffer)
  /-- Replaces the samples of a plane. -/
  | replace (name : String) (component : Component) (data : SampleBuffer)
  /-- Sets the nominal range of a plane. -/
  | setRange (name : String) (component : Component) (range : NominalRange)
  /-- Sets the sequence number and the availability. -/
  | setMetadata (name : String) (number : UInt64) (available : Bool)
  /-- Copies sequence number, availability and ranges from another frame. -/
  | copyMetadata (name source : String)
  /-- Decimates one frame into another. -/
  | decimate (name source : String) (decimator : Decimator)
  /-- Asks for the number of samples of a plane in each kind. -/
  | views (name : String) (component : Component)
  /-- Asks whether two frames are equal. -/
  | compare (name other : String)
  /-- Asks for a frame. -/
  | display (name : String)

/-- What a store answers. -/
inductive Reply
  /-- The frame that was made, changed or asked for. -/
  | frame (frame : Frame)
  /-- The two frames of a test pattern. -/
  | frames (source destination : Frame)
  /-- The plane that was changed. -/
  | plane (plane : Plane)
  /-- Whether samples were overwritten, and the plane after that. -/
  | overwritten (written : Bool) (plane : Plane)
  /-- The range that was set. -/
  | range (range : NominalRange)
  /-- The sequence number and the availability that were set. -/
  | metadata (number : UInt64) (available : Bool)
  /-- The number of samples in each kind, for the kind that is stored. -/
  | counts (counts : List (Option Nat))
  /-- Whether two frames are equal. -/
  | verdict (equal : Bool)

namespace FrameStore

/-- The store without frames. -/
def empty : FrameStore := ⟨[]⟩

/-- The frame of a name. -/
def get? (s : FrameStore) (name : String) : Option Frame :=
  s.entries.lookup name

/-- The store with a frame under a name, in place of any other. -/
def insert (s : FrameStore) (name : String) (f : Frame) : FrameStore :=
  ⟨(name, f) :: s.entries.filter (fun entry => entry.1 != name)⟩

theorem lookup_filter_of_ne {entries : List (String × Frame)} {name other : String}
    (h : other ≠ name) :
    (entries.filter (fun entry => entry.1 != name)).lookup other = entries.lookup other := by
  induction entries with
  | nil => rfl
  | cons entry rest ih =>
    obtain ⟨key, f⟩ := entry
    by_cases hk : key = name
    · have ho : (other == key) = false := by simpa [hk] using h
      rw [List.filter_cons_of_neg (by simp [hk]), ih, List.lookup_cons, ho]
    · rw [List.filter_cons_of_pos (by simp [hk]), List.lookup_cons, List.lookup_cons, ih]

/-- A name finds the frame that was put under it last. -/
theorem get?_insert (s : FrameStore) (name other : String) (f : Frame) :
    (s.insert name f).get? other = if other = name then some f else s.get? other := by
  by_cases h : other = name
  · simp [insert, get?, h]
  · have hb : (other == name) = false := by simpa using h
    rw [if_neg h, get?, insert, List.lookup_cons, hb]
    exact lookup_filter_of_ne h

/-- The computations on a store. -/
abbrev Run := EStateM StoreError FrameStore

/-- The frame of a name, which must be there. -/
def find (name : String) : Run Frame := do
  match (← get).get? name with
  | some f => return f
  | none => throw (.noFrame name)

/-- Puts a frame under a name. -/
def put (name : String) (f : Frame) : Run Unit :=
  modify (·.insert name f)

/-- Carries out a command. -/
def run : Command → Run Reply
  | .blank name width height chroma format => do
    let f ← ofExcept ((Frame.blank width height chroma format).mapError .blank)
    put name f
    return .frame f
  | .clone name source => do
    let f ← find source
    put name f
    return .frame f
  | .pattern source destination width height format => do
    let (f, g) ← ofExcept ((TestPattern.pair width height format).mapError .pattern)
    put source f
    put destination g
    return .frames f g
  | .overwrite name component values => do
    let f ← find name
    let p := f.plane component
    match p.overwriteSamples? values with
    | some q =>
      put name (f.withPlane component q)
      return .overwritten true q
    | none => return .overwritten false p
  | .replace name component data => do
    let f ← find name
    let p ← ofExcept (((f.plane component).replaceData data).mapError .frame)
    put name (f.withPlane component p)
    return .plane p
  | .setRange name component range => do
    let f ← find name
    put name (f.withPlane component { f.plane component with range })
    return .range range
  | .setMetadata name number available => do
    let f ← find name
    put name { f with number, available }
    return .metadata number available
  | .copyMetadata name source => do
    let donor ← find source
    let f ← find name
    let g := f.withMetadata donor
    put name g
    return .frame g
  | .decimate name source decimator => do
    let inp ← find source
    let out ← find name
    match decimator.halveFrame inp out with
    | .ok _ written =>
      put name written
      return .frame written
    | .error e written =>
      put name written
      throw (.decimation e)
  | .views name component => do
    let f ← find name
    let p := f.plane component
    return .counts ([SampleKind.float32, .uint16, .uint8].map fun k =>
      (p.samples? k).map Array.size)
  | .compare name other => do
    let f ← find name
    let g ← find other
    return .verdict (f == g)
  | .display name => do
    return .frame (← find name)

end FrameStore
end PlanarVideo
