import ActionBridge.Url.Basic

namespace ActionBridge

namespace Text

def cutAt (stop : Char) : List Char → List Char × Option (List Char)
  | [] => ([], none)
  | c :: cs =>
    if c = stop then ([], some cs) else (c :: (cutAt stop cs).1, (cutAt stop cs).2)

theorem cutAt_of_not_mem {stop : Char} {cs : List Char} (h : stop ∉ cs) :
    cutAt stop cs = (cs, none) := by
  induction cs with
  | nil => rfl
  | cons c cs ih =>
    obtain ⟨hc, hcs⟩ := List.ne_and_not_mem_of_not_mem_cons h
    rw [cutAt, if_neg hc.symm, ih hcs]

theorem cutAt_append {stop : Char} {cs : List Char} (h : stop ∉ cs) (rest : List Char) :
    cutAt stop (cs ++ stop :: rest) = (cs, some rest) := by
  induction cs with
  | nil => exact if_pos rfl
  | cons c cs ih =>
    obtain ⟨hc, hcs⟩ := List.ne_and_not_mem_of_not_mem_cons h
    rw [List.cons_append, cutAt, if_neg hc.symm, ih hcs]

def marked (mark : Char) : Option (List Char) → List Char
  | some cs => mark :: cs
  | none => []

theorem cutAt_append_marked {stop : Char} {cs : List Char} (h : stop ∉ cs)
    (rest : Option (List Char)) : cutAt stop (cs ++ marked stop rest) = (cs, rest) := by
  cases rest with
  | none =>
    rw [marked, List.append_nil]
    exact cutAt_of_not_mem h
  | some rest => exact cutAt_append h rest

end Text

open Text

structure UrlParts where
  scheme : List Char
  authority : Option (List Char)
  path : List Char
  query : Option (List Char)
  fragment : Option (List Char)
deriving DecidableEq, Repr

namespace UrlParts

def splitAuthority : List Char → Option (List Char) × List Char
  | '/' :: '/' :: cs => (some (cutAt '/' cs).1, marked '/' (cutAt '/' cs).2)
  | cs => (none, cs)

/-- Reads the parts of a URL off its text: the scheme ends at the first colon, the fragment starts
at the first number sign behind it, and the query at the first question mark before that. -/
def ofText? (text : String) : Option UrlParts :=
  match cutAt ':' text.toList with
  | (_, none) => none
  | (scheme, some rest) =>
    let (rest, fragment) := cutAt '#' rest
    let (rest, query) := cutAt '?' rest
    let (authority, path) := splitAuthority rest
    some ⟨scheme, authority, path, query, fragment⟩

theorem splitAuthority_slashes {authority : List Char} (h : '/' ∉ authority)
    (path : Option (List Char)) :
    splitAuthority ('/' :: '/' :: (authority ++ marked '/' path)) =
      (some authority, marked '/' path) := by
  rw [splitAuthority, cutAt_append_marked h]

theorem splitAuthority_of_head {cs : List Char} (h : cs.head? ≠ some '/') :
    splitAuthority cs = (none, cs) := by
  unfold splitAuthority
  split
  · exact absurd rfl h
  · rfl

theorem splitAuthority_slash {cs : List Char} (h : cs.head? ≠ some '/') :
    splitAuthority ('/' :: cs) = (none, '/' :: cs) := by
  unfold splitAuthority
  split
  · rename_i heq
    rw [(List.cons.inj heq).2] at h
    exact absurd rfl h
  · rfl

end UrlParts

namespace Url

def IsInner (c : Char) : Prop := c ≠ '/' ∧ c ≠ '?' ∧ c ≠ '#'

instance : DecidablePred IsInner := fun _ => inferInstanceAs (Decidable (_ ∧ _ ∧ _))

def AreInner (cs : List Char) : Prop := ∀ c ∈ cs, IsInner c

@[simp] theorem AreInner.nil : AreInner [] := nofun

theorem AreInner.cons {c : Char} {cs : List Char} (hc : IsInner c) (h : AreInner cs) :
    AreInner (c :: cs) :=
  List.forall_mem_cons.2 ⟨hc, h⟩

theorem AreInner.append {cs ds : List Char} (hc : AreInner cs) (hd : AreInner ds) :
    AreInner (cs ++ ds) :=
  List.forall_mem_append.2 ⟨hc, hd⟩

def UrlPath.IsSeparable : UrlPath → Prop
  | rootless text => (∀ c ∈ text, c ≠ '?' ∧ c ≠ '#') ∧ text.head? ≠ some '/'
  | segments list => ∀ cs ∈ list, AreInner cs

/-- No part holds a character that ends it, and what comes first in a path is not taken for an
authority. -/
structure Separable (u : Url) : Prop where
  scheme : ':' ∉ u.scheme.toList
  authority : ∀ a ∈ u.authority, AreInner a.toText ∧ ∃ list, u.path = .segments list
  path : u.path.IsSeparable
  apart : u.authority = none → u.isKeptApart = false → u.path.startsEmpty = false
  query : ∀ q ∈ u.query, '#' ∉ q

def pathText (u : Url) : List Char :=
  if u.authority.isNone && u.isKeptApart then '/' :: '.' :: u.path.toText else u.path.toText

def parts (u : Url) : UrlParts :=
  ⟨u.scheme.toList, u.authority.map Authority.toText, u.pathText, u.query, u.fragment⟩

theorem UrlPath.toText_segments (list : List (List Char)) :
    ∃ rest, (segments list).toText = marked '/' rest := by
  cases list with
  | nil => exact ⟨none, rfl⟩
  | cons cs list => exact ⟨some (cs ++ list.flatMap ('/' :: ·)), rfl⟩

theorem UrlPath.IsSeparable.splitAuthority {path : UrlPath} (h : path.IsSeparable)
    (hs : path.startsEmpty = false) : UrlParts.splitAuthority path.toText = (none, path.toText) := by
  cases path with
  | rootless text => exact UrlParts.splitAuthority_of_head h.2
  | segments list =>
    match list with
    | [] => rfl
    | [[]] => rfl
    | [] :: _ :: _ => exact absurd hs (by simp [startsEmpty])
    | (c :: cs) :: list =>
      have hc : c ≠ '/' := (h _ List.mem_cons_self c List.mem_cons_self).1
      exact UrlParts.splitAuthority_slash (by simpa using hc)

theorem UrlPath.IsSeparable.forall_mem_toText {path : UrlPath} (h : path.IsSeparable) :
    ∀ c ∈ path.toText, c ≠ '?' ∧ c ≠ '#' := by
  cases path with
  | rootless text => exact h.1
  | segments list =>
    intro c hc
    obtain ⟨cs, hcs, hc⟩ := List.mem_flatMap.1 hc
    rcases List.mem_cons.1 hc with rfl | hc
    · decide
    · exact (h cs hcs c hc).2

namespace Separable

variable {u : Url} (h : u.Separable)
include h

theorem forall_mem_beforePath : ∀ c ∈ u.beforePath, c ≠ '?' ∧ c ≠ '#' := by
  intro c hc
  unfold beforePath at hc
  cases ha : u.authority with
  | some a =>
    rw [ha] at hc
    rcases List.mem_cons.1 hc with rfl | hc
    · decide
    · rcases List.mem_cons.1 hc with rfl | hc
      · decide
      · exact ((h.authority a ha).1 c hc).2
  | none =>
    rw [ha] at hc
    cases hk : u.isKeptApart with
    | true =>
      have hall : ∀ c ∈ ['/', '.'], c ≠ '?' ∧ c ≠ '#' := by simp
      simp only [hk, if_true] at hc
      exact hall c hc
    | false => simp [hk] at hc

theorem splitAuthority :
    UrlParts.splitAuthority (u.beforePath ++ u.path.toText) =
      (u.authority.map Authority.toText, u.pathText) := by
  unfold beforePath pathText
  cases ha : u.authority with
  | some a =>
    obtain ⟨hinner, list, hlist⟩ := h.authority a ha
    obtain ⟨rest, hrest⟩ := UrlPath.toText_segments list
    have hslash : '/' ∉ a.toText := fun hc => (hinner '/' hc).1 rfl
    simp only [hlist, hrest, List.cons_append, Option.isNone_some, Bool.false_and, Option.map_some]
    exact UrlParts.splitAuthority_slashes hslash rest
  | none =>
    cases hk : u.isKeptApart with
    | true => exact UrlParts.splitAuthority_slash (by simp)
    | false => exact h.path.splitAuthority (h.apart ha hk)

theorem ofText?_toText : UrlParts.ofText? u.toText = some u.parts := by
  have hbefore : ∀ c ∈ u.beforePath ++ u.path.toText, c ≠ '?' ∧ c ≠ '#' := by
    intro c hc
    rcases List.mem_append.1 hc with hc | hc
    · exact h.forall_mem_beforePath c hc
    · exact h.path.forall_mem_toText c hc
  have hquestion : '?' ∉ u.beforePath ++ u.path.toText := fun hc => (hbefore '?' hc).1 rfl
  have hhash : '#' ∉ u.beforePath ++ u.path.toText ++ marked '?' u.query := by
    intro hc
    rcases List.mem_append.1 hc with hc | hc
    · exact (hbefore '#' hc).2 rfl
    · cases hq : u.query with
      | none => simp [hq, marked] at hc
      | some q => exact h.query q hq (by simpa [hq, marked] using hc)
  have htext : u.toText.toList = u.scheme.toList ++ marked ':' (some
      (u.beforePath ++ u.path.toText ++ marked '?' u.query ++ marked '#' u.fragment)) := by
    rw [toText, String.toList_ofList]
    rfl
  rw [UrlParts.ofText?, htext, cutAt_append_marked h.scheme]
  simp only [cutAt_append_marked hhash, cutAt_append_marked hquestion, h.splitAuthority]
  rfl

end Separable

end Url

end ActionBridge
