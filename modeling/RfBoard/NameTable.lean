namespace RfBoard

abbrev NameTable (α : Type) := List (String × α)

namespace NameTable

variable {α : Type}

def find (t : NameTable α) (name : String) : Option α := t.lookup name

def insert : NameTable α → String → α → NameTable α
  | [], name, a => [(name, a)]
  | (n, b) :: t, name, a => if n = name then (n, a) :: t else (n, b) :: insert t name a

def erase (t : NameTable α) (name : String) : NameTable α := t.filter fun e => e.1 ≠ name

theorem find_insert (t : NameTable α) (name other : String) (a : α) :
    (t.insert name a).find other = if other = name then some a else t.find other := by
  induction t with
  | nil =>
    by_cases h : other = name
    · simp [insert, find, h]
    · have hb : (other == name) = false := by simpa using h
      simp [insert, find, List.lookup_cons, h, hb]
  | cons e t ih =>
    obtain ⟨n, b⟩ := e
    simp only [find] at ih
    by_cases hn : n = name
    · subst hn
      by_cases h : other = n
      · simp [insert, find, h]
      · have hb : (other == n) = false := by simpa using h
        simp [insert, find, List.lookup_cons, h, hb]
    · by_cases h : other = n
      · subst h
        simp [insert, find, hn]
      · have hb : (other == n) = false := by simpa using h
        simpa [insert, find, List.lookup_cons, hn, hb] using ih

end NameTable

end RfBoard
