import Footprint.Program

/-!
This module contains what is known of the files of a host, and steps of a run by what they do to
these files.
-/

namespace Footprint

/-- The files of a host by its state, with the laws of reading, writing and printing. -/
structure FileSystem (σ : Type) [Host (StateM σ)] where
  Files : Type
  files : σ → Files
  File : Type
  Content : Type
  content : Files → File → Content
  readText : Files → String → Except FileError String
  /-- The file that is written under a path. -/
  fileAt? : Files → String → Option File
  /-- Whether a file can be created, or emptied, under a path and then takes any text. -/
  Creatable : Files → String → Prop
  read_eq (path : String) (s : σ)
    : ((Host.read path : StateM σ _).run s).1 = readText (files s) path
  files_read (path : String) (s : σ)
    : files ((Host.read path : StateM σ _).run s).2 = files s
  files_print (text : String) (s : σ)
    : files ((Host.print text : StateM σ _).run s).2 = files s
  files_tell (text : String) (s : σ)
    : files ((Host.tell text : StateM σ _).run s).2 = files s
  write_eq {path : String} {s : σ} (h : Creatable (files s) path) (text : String)
    : ((Host.write path text : StateM σ _).run s).1 = .ok ()
  readText_write {path : String} {s : σ} (h : Creatable (files s) path) (text : String)
    : readText (files ((Host.write path text : StateM σ _).run s).2) path = .ok text
  content_write {path : String} {s : σ} {file : File} (h : Creatable (files s) path)
    (hfile : fileAt? (files s) path ≠ some file) (text : String)
    : content (files ((Host.write path text : StateM σ _).run s).2) file = content (files s) file

namespace FileSystem

variable {σ α β : Type} [Host (StateM σ)] {fs : FileSystem σ} {F : fs.Files} {x : StateM σ α}
  {y : α → StateM σ β} {a : α} {b : β} {P Q : fs.Files → Prop} {path : String}

def Leads (fs : FileSystem σ) (F : fs.Files) (x : StateM σ α) (a : α) (P : fs.Files → Prop)
    : Prop :=
  ∀ s, fs.files s = F → (x.run s).1 = a ∧ P (fs.files (x.run s).2)

def Keeps (fs : FileSystem σ) (F : fs.Files) (x : StateM σ α) (a : α) : Prop :=
  fs.Leads F x a (· = F)

theorem Leads.bind (hx : fs.Leads F x a P) (hy : ∀ G, P G → fs.Leads G (y a) b Q)
    : fs.Leads F (x >>= y) b Q := by
  intro s hs
  obtain ⟨rfl, hfiles⟩ := hx s hs
  exact hy _ hfiles (x.run s).2 rfl

theorem Keeps.bind (hx : fs.Keeps F x a) (hy : fs.Leads F (y a) b P)
    : fs.Leads F (x >>= y) b P := by
  apply Leads.bind hx
  rintro _ rfl
  exact hy

end FileSystem
end Footprint
