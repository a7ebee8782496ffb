import RestDispatch.Unicode.Table

/-!
# The revision of version 17.0

What version 17.0 of the character database changed for code points that
version 16.0 had already assigned, for the properties patterns ask for. A
reader that follows version 16.0 takes the tables of this project and undoes
these changes, besides seeing the code points assigned in 17.0 as unassigned.

* `earlierCategoryText` gives the runs of code points with their general
  category in version 16.0, `lo-hi:code`.
* `earlierBinaryTexts` gives, for each binary property, the code points whose
  value 17.0 turned over: the property's set in 16.0 is its 17.0 set with these
  code points turned over again.
* `earlierScriptExtensionText` gives the runs of code points with their script
  extensions in version 16.0, joined by `+`.
-/

namespace RestDispatch.Unicode

set_option autoImplicit false

/-- The general categories in version 16.0 that version 17.0 changed. -/
def earlierCategoryText : String :=
  "295:Ll"

/-- Each binary property with the code points whose value version 17.0 turned over. -/
def earlierBinaryTexts : List (String × String) := [
  ("Cased",
    "295"),
  ("Changes_When_Casemapped",
    "a7d3 a7d5"),
  ("Changes_When_Titlecased",
    "a7d3 a7d5"),
  ("Changes_When_Uppercased",
    "a7d3 a7d5"),
  ("Diacritic",
    "5a2 5c5 5c7 e3a 1734 1a60 1be6 1bf2-1bf3 1d9b-1dbe a806 a82c 10a38-10a3a 10a3f 1133b 11f41-11f42"),
  ("Extended_Pictographic",
    "2388 2605 2607-260d 260f-2610 2612 2616-2617 2619-261c 261e-261f 2621 2624-2625 2627-2629 262b-262d 2630-2637 263b-263f 2641 2643-2647 2654-265e 2661-2662 2664 2667 2669-267a 267c-267d 2680-2685 2690-2691 2698 269a 269d-269f 26a2-26a6 26a8-26a9 26ac-26af 26b2-26bc 26bf-26c3 26c6-26c7 26c9-26cd 26d0 26d2 26d5-26e8 26eb-26ef 26f6 26fb-26fc 26fe-2701 2703-2704 270e 2710-2711 2765-2767 1f000-1f003 1f005-1f02b 1f030-1f093 1f0a0-1f0ae 1f0b1-1f0bf 1f0c1-1f0ce 1f0d1-1f0f5 1f10d-1f10f 1f12f 1f16c-1f16f 1f1ad 1f260-1f265 1f322-1f323 1f394-1f395 1f398 1f39c-1f39d 1f3f1-1f3f2 1f3f6 1f4fe 1f546-1f548 1f54f 1f568-1f56e 1f571-1f572 1f57b-1f586 1f588-1f589 1f58e-1f58f 1f591-1f594 1f597-1f5a3 1f5a6-1f5a7 1f5a9-1f5b0 1f5b3-1f5bb 1f5bd-1f5c1 1f5c5-1f5d0 1f5d4-1f5db 1f5df-1f5e0 1f5e2 1f5e4-1f5e7 1f5e9-1f5ee 1f5f0-1f5f2 1f5f4-1f5f9 1f6c6-1f6ca 1f6d3-1f6d4 1f6e6-1f6e8 1f6ea 1f6f1-1f6f2 1f774-1f776 1f77b-1f77f 1f7d5-1f7d9 1f8b0-1f8b1 1fa00-1fa53 1fa60-1fa6d"),
  ("Lowercase",
    "295")]

/-- The script extensions in version 16.0 that version 17.0 changed. -/
def earlierScriptExtensionText : String :=
  "320:Latin+Syriac 331:Caucasian_Albanian+Cherokee+Gothic+Latin+Sunuwar+Thai 951:Bengali+Devanagari+Grantha+Gujarati+Gurmukhi+Kannada+Latin+Malayalam+Oriya+Sharada+Tamil+Telugu+Tirhuta 952:Bengali+Devanagari+Grantha+Gujarati+Gurmukhi+Kannada+Latin+Malayalam+Oriya+Tamil+Telugu+Tirhuta 1cd3:Devanagari+Grantha 1cd5-1cd6:Bengali+Devanagari 1cd7:Devanagari+Sharada 1cd8:Bengali+Devanagari 1ce2:Devanagari 1ce9:Devanagari+Nandinagari 1cea:Bengali+Devanagari 1ceb:Devanagari 1ced:Bengali+Devanagari 1cf2:Bengali+Devanagari+Grantha+Kannada+Nandinagari+Oriya+Telugu+Tirhuta+Tulu_Tigalari a830-a832:Devanagari+Dogra+Gujarati+Gurmukhi+Kaithi+Kannada+Khojki+Khudawadi+Mahajani+Malayalam+Modi+Nandinagari+Takri+Tirhuta+Tulu_Tigalari a833-a835:Devanagari+Dogra+Gujarati+Gurmukhi+Kaithi+Kannada+Khojki+Khudawadi+Mahajani+Modi+Nandinagari+Takri+Tirhuta+Tulu_Tigalari a838:Devanagari+Dogra+Gujarati+Gurmukhi+Kaithi+Khojki+Khudawadi+Mahajani+Modi+Takri+Tirhuta"

/-- A run `lo-hi:value` of a revision, read. -/
def revisionRunOfToken? (token : String) : Option (Nat × Nat × String) :=
  match token.splitOn ":" with
  | [r, v] => (RangeSet.rangeOfToken? r).map fun (a, b) => (a, b, v)
  | _ => none

/-- The general categories that version 17.0 changed, read. -/
def earlierCategoryRuns : List (Nat × Nat × String) :=
  (earlierCategoryText.splitOn " ").filterMap revisionRunOfToken?

/-- The script extensions that version 17.0 changed, read: each run with its scripts. -/
def earlierScriptExtensionRuns : List (Nat × Nat × List String) :=
  ((earlierScriptExtensionText.splitOn " ").filterMap revisionRunOfToken?).map
    fun (a, b, v) => (a, b, v.splitOn "+")

/-- The code points whose value of a binary property version 17.0 turned over. -/
def earlierBinaryChanges (name : String) : List (Nat × Nat) :=
  match earlierBinaryTexts.lookup name with
  | some text => (RangeSet.ofText text).toList
  | none => []

end RestDispatch.Unicode
