import Mathlib.Data.List.Infix

namespace HotspotGovernor.Lib.Volume

variable {α : Type}

/-- A file under a cache: what a reader sees now, and every content that a loss of power may leave
behind. A write that was not synced may be missing as a whole or from some byte on. -/
structure File (α : Type) where
  visible : Option (List α)
  remnants : List (Option (List α))
  kept : visible ∈ remnants

namespace File

def settled (content : Option (List α)) : File α := ⟨content, [content], by simp⟩

variable (f : File α)

def contents : List α := f.visible.getD []

def write (bytes : List α) : File α :=
  { visible := some bytes
    remnants := f.remnants ++ bytes.inits.map some
    kept := by simp }

def append (bytes : List α) : File α :=
  { visible := some (f.contents ++ bytes)
    remnants := f.remnants ++ bytes.inits.map (fun part ↦ some (f.contents ++ part))
    kept := by simp }

def truncate (size : ℕ) : File α :=
  { visible := f.visible.map (List.take size)
    remnants := f.remnants ++ [f.visible.map (List.take size)]
    kept := by simp }

def remove : File α := { visible := none, remnants := f.remnants ++ [none], kept := by simp }

def sync : File α := settled f.visible

/-- Another file takes the name of this one: a reader sees one of the two, never a mixture. -/
def replaceBy (source : File α) : File α :=
  { visible := source.visible
    remnants := f.remnants ++ source.remnants
    kept := List.mem_append_right _ source.kept }

def Leaves (g : File α) : Prop := ∃ content ∈ f.remnants, g = settled content

end File

@[simp] theorem visible_settled (content : Option (List α)) : (File.settled content).visible = content := rfl

@[simp] theorem remnants_settled (content : Option (List α)) : (File.settled content).remnants = [content] := rfl

@[simp] theorem visible_write (f : File α) (bytes : List α) : (f.write bytes).visible = some bytes := rfl

@[simp] theorem visible_append (f : File α) (bytes : List α) :
    (f.append bytes).visible = some (f.contents ++ bytes) := rfl

@[simp] theorem visible_truncate (f : File α) (size : ℕ) :
    (f.truncate size).visible = f.visible.map (List.take size) := rfl

@[simp] theorem visible_sync (f : File α) : f.sync.visible = f.visible := rfl

@[simp] theorem remnants_sync (f : File α) : f.sync.remnants = [f.visible] := rfl

@[simp] theorem visible_replaceBy (f source : File α) : (f.replaceBy source).visible = source.visible := rfl

@[simp] theorem remnants_replaceBy (f source : File α) :
    (f.replaceBy source).remnants = f.remnants ++ source.remnants := rfl

theorem leaves_settled {content : Option (List α)} {g : File α} (h : (File.settled content).Leaves g) :
    g = File.settled content := by
  obtain ⟨left, hleft, rfl⟩ := h
  rw [List.mem_singleton.mp hleft]

end HotspotGovernor.Lib.Volume
