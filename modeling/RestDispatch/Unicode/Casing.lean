import RestDispatch.Unicode.Property

/-!
# Case mappings

The full lowercase and uppercase mappings of version 17.0, without conditions
of language. A one-character mapping is kept in runs: `lo-hi/step+delta` sends
`lo`, `lo + step`, … up to `hi` to the code point `delta` further (`_delta`
back), and a step of one is not written. A mapping to several characters is
written `cp=a.b.c`.

Lowering a text lowers each character, except that a capital sigma at the end
of a word becomes a final small sigma: it follows a cased character, with only
case-ignorable ones between, and no cased character follows it in the same way.
-/

namespace RestDispatch.Unicode

set_option autoImplicit false

/-- The lowercase mapping. -/
def lowerText : String :=
  "41-5a+20 c0-d6+20 d8-de+20 100-12e/2+1 130=69.307 132-136/2+1 139-147/2+1 14a-176/2+1 178_79 179-17d/2+1 181+d2 182-184/2+1 186+ce 187+1 189-18a+cd 18b+1 18e+4f 18f+ca 190+cb 191+1 193+cd 194+cf 196+d3 197+d1 198+1 19c+d3 19d+d5 19f+d6 1a0-1a4/2+1 1a6+da 1a7+1 1a9+da 1ac+1 1ae+da 1af+1 1b1-1b2+d9 1b3-1b5/2+1 1b7+db 1b8+1 1bc+1 1c4+2 1c5+1 1c7+2 1c8+1 1ca+2 1cb-1db/2+1 1de-1ee/2+1 1f1+2 1f2-1f4/2+1 1f6_61 1f7_38 1f8-21e/2+1 220_82 222-232/2+1 23a+2a2b 23b+1 23d_a3 23e+2a28 241+1 243_c3 244+45 245+47 246-24e/2+1 370-372/2+1 376+1 37f+74 386+26 388-38a+25 38c+40 38e-38f+3f 391-3a1+20 3a3-3ab+20 3cf+8 3d8-3ee/2+1 3f4_3c 3f7+1 3f9_7 3fa+1 3fd-3ff_82 400-40f+50 410-42f+20 460-480/2+1 48a-4be/2+1 4c0+f 4c1-4cd/2+1 4d0-52e/2+1 531-556+30 10a0-10c5+1c60 10c7+1c60 10cd+1c60 13a0-13ef+97d0 13f0-13f5+8 1c89+1 1c90-1cba_bc0 1cbd-1cbf_bc0 1e00-1e94/2+1 1e9e_1dbf 1ea0-1efe/2+1 1f08-1f0f_8 1f18-1f1d_8 1f28-1f2f_8 1f38-1f3f_8 1f48-1f4d_8 1f59-1f5f/2_8 1f68-1f6f_8 1f88-1f8f_8 1f98-1f9f_8 1fa8-1faf_8 " ++
  "1fb8-1fb9_8 1fba-1fbb_4a 1fbc_9 1fc8-1fcb_56 1fcc_9 1fd8-1fd9_8 1fda-1fdb_64 1fe8-1fe9_8 1fea-1feb_70 1fec_7 1ff8-1ff9_80 1ffa-1ffb_7e 1ffc_9 2126_1d5d 212a_20bf 212b_2046 2132+1c 2160-216f+10 2183+1 24b6-24cf+1a 2c00-2c2f+30 2c60+1 2c62_29f7 2c63_ee6 2c64_29e7 2c67-2c6b/2+1 2c6d_2a1c 2c6e_29fd 2c6f_2a1f 2c70_2a1e 2c72+1 2c75+1 2c7e-2c7f_2a3f 2c80-2ce2/2+1 2ceb-2ced/2+1 2cf2+1 a640-a66c/2+1 a680-a69a/2+1 a722-a72e/2+1 a732-a76e/2+1 a779-a77b/2+1 a77d_8a04 a77e-a786/2+1 a78b+1 a78d_a528 a790-a792/2+1 a796-a7a8/2+1 a7aa_a544 a7ab_a54f a7ac_a54b a7ad_a541 a7ae_a544 a7b0_a512 a7b1_a52a a7b2_a515 a7b3+3a0 a7b4-a7c2/2+1 a7c4_30 a7c5_a543 a7c6_8a38 a7c7-a7c9/2+1 a7cb_a567 a7cc-a7da/2+1 a7dc_a641 a7f5+1 ff21-ff3a+20 10400-10427+28 104b0-104d3+28 10570-1057a+27 1057c-1058a+27 1058c-10592+27 10594-10595+27 10c80-10cb2+40 10d50-10d65+20 118a0-118bf+20 16e40-16e5f+20 16ea0-16eb8+1b 1e900-1e921+22"

/-- The uppercase mapping. -/
def upperText : String :=
  "61-7a_20 b5+2e7 df=53.53 e0-f6_20 f8-fe_20 ff+79 101-12f/2_1 131_e8 133-137/2_1 13a-148/2_1 149=2bc.4e 14b-177/2_1 17a-17e/2_1 17f_12c 180+c3 183-185/2_1 188_1 18c_1 192_1 195+61 199_1 19a+a3 19b+a641 19e+82 1a1-1a5/2_1 1a8_1 1ad_1 1b0_1 1b4-1b6/2_1 1b9_1 1bd_1 1bf+38 1c5_1 1c6_2 1c8_1 1c9_2 1cb_1 1cc_2 1ce-1dc/2_1 1dd_4f 1df-1ef/2_1 1f0=4a.30c 1f2_1 1f3_2 1f5_1 1f9-21f/2_1 223-233/2_1 23c_1 23f-240+2a3f 242_1 247-24f/2_1 250+2a1f 251+2a1c 252+2a1e 253_d2 254_ce 256-257_cd 259_ca 25b_cb 25c+a54f 260_cd 261+a54b 263_cf 264+a567 265+a528 266+a544 268_d1 269_d3 26a+a544 26b+29f7 26c+a541 26f_d3 271+29fd 272_d5 275_d6 27d+29e7 280_da 282+a543 283_da 287+a52a 288_da 289_45 28a-28b_d9 28c_47 292_db 29d+a515 29e+a512 345+54 371-373/2_1 377_1 37b-37d+82 390=399.308.301 3ac_26 3ad-3af_25 3b0=3a5.308.301 3b1-3c1_20 3c2_1f 3c3-3cb_20 3cc_40 3cd-3ce_3f 3d0_3e 3d1_39 3d5_2f 3d6_36 3d7_8 3d9-3ef/2_1 3f0_56 3f1_50 3f2+7 3f3_74 3f5_60 3f8_1 3fb_1 430-44f_20 450-45f_50 461-481/2_1 48b-4bf/2_1 " ++
  "4c2-4ce/2_1 4cf_f 4d1-52f/2_1 561-586_30 587=535.552 10d0-10fa+bc0 10fd-10ff+bc0 13f8-13fd_8 1c80_186e 1c81_186d 1c82_1864 1c83-1c84_1862 1c85_1863 1c86_185c 1c87_1825 1c88+89c2 1c8a_1 1d79+8a04 1d7d+ee6 1d8e+8a38 1e01-1e95/2_1 1e96=48.331 1e97=54.308 1e98=57.30a 1e99=59.30a 1e9a=41.2be 1e9b_3b 1ea1-1eff/2_1 1f00-1f07+8 1f10-1f15+8 1f20-1f27+8 1f30-1f37+8 1f40-1f45+8 1f50=3a5.313 1f51+8 1f52=3a5.313.300 1f53+8 1f54=3a5.313.301 1f55+8 1f56=3a5.313.342 1f57+8 1f60-1f67+8 1f70-1f71+4a 1f72-1f75+56 1f76-1f77+64 1f78-1f79+80 1f7a-1f7b+70 1f7c-1f7d+7e 1f80=1f08.399 1f81=1f09.399 1f82=1f0a.399 1f83=1f0b.399 1f84=1f0c.399 1f85=1f0d.399 1f86=1f0e.399 1f87=1f0f.399 1f88=1f08.399 1f89=1f09.399 1f8a=1f0a.399 1f8b=1f0b.399 1f8c=1f0c.399 1f8d=1f0d.399 1f8e=1f0e.399 1f8f=1f0f.399 1f90=1f28.399 1f91=1f29.399 1f92=1f2a.399 1f93=1f2b.399 1f94=1f2c.399 1f95=1f2d.399 1f96=1f2e.399 1f97=1f2f.399 1f98=1f28.399 1f99=1f29.399 1f9a=1f2a.399 1f9b=1f2b.399 1f9c=1f2c.399 1f9d=1f2d.399 1f9e=1f2e.399 1f9f=1f2f.399 " ++
  "1fa0=1f68.399 1fa1=1f69.399 1fa2=1f6a.399 1fa3=1f6b.399 1fa4=1f6c.399 1fa5=1f6d.399 1fa6=1f6e.399 1fa7=1f6f.399 1fa8=1f68.399 1fa9=1f69.399 1faa=1f6a.399 1fab=1f6b.399 1fac=1f6c.399 1fad=1f6d.399 1fae=1f6e.399 1faf=1f6f.399 1fb0-1fb1+8 1fb2=1fba.399 1fb3=391.399 1fb4=386.399 1fb6=391.342 1fb7=391.342.399 1fbc=391.399 1fbe_1c25 1fc2=1fca.399 1fc3=397.399 1fc4=389.399 1fc6=397.342 1fc7=397.342.399 1fcc=397.399 1fd0-1fd1+8 1fd2=399.308.300 1fd3=399.308.301 1fd6=399.342 1fd7=399.308.342 1fe0-1fe1+8 1fe2=3a5.308.300 1fe3=3a5.308.301 1fe4=3a1.313 1fe5+7 1fe6=3a5.342 1fe7=3a5.308.342 1ff2=1ffa.399 1ff3=3a9.399 1ff4=38f.399 1ff6=3a9.342 1ff7=3a9.342.399 1ffc=3a9.399 214e_1c 2170-217f_10 2184_1 24d0-24e9_1a 2c30-2c5f_30 2c61_1 2c65_2a2b 2c66_2a28 2c68-2c6c/2_1 2c73_1 2c76_1 2c81-2ce3/2_1 2cec-2cee/2_1 2cf3_1 2d00-2d25_1c60 2d27_1c60 2d2d_1c60 a641-a66d/2_1 a681-a69b/2_1 a723-a72f/2_1 a733-a76f/2_1 a77a-a77c/2_1 a77f-a787/2_1 a78c_1 a791-a793/2_1 a794+30 a797-a7a9/2_1 a7b5-a7c3/2_1 a7c8-a7ca/2_1 " ++
  "a7cd-a7db/2_1 a7f6_1 ab53_3a0 ab70-abbf_97d0 fb00=46.46 fb01=46.49 fb02=46.4c fb03=46.46.49 fb04=46.46.4c fb05=53.54 fb06=53.54 fb13=544.546 fb14=544.535 fb15=544.53b fb16=54e.546 fb17=544.53d ff41-ff5a_20 10428-1044f_28 104d8-104fb_28 10597-105a1_27 105a3-105b1_27 105b3-105b9_27 105bb-105bc_27 10cc0-10cf2_40 10d70-10d85_20 118c0-118df_20 16e60-16e7f_20 16ebb-16ed3_1b 1e922-1e943_22"

/-- One entry of a case mapping: a run of one-character mappings, or one
character mapped to several. -/
structure CaseEntry where
  lo : Nat
  hi : Nat
  step : Nat
  delta : Int
  several : List Nat
  deriving Repr, Inhabited

/-- The entry a token names. -/
def CaseEntry.ofToken? (token : String) : Option CaseEntry :=
  match token.splitOn "=" with
  | [a, b] => do
    let cp ← hexValue? a
    let cs ← (b.splitOn ".").mapM hexValue?
    pure ⟨cp, cp, 1, 0, cs⟩
  | [t] =>
    let (body, delta) := match t.splitOn "+", t.splitOn "_" with
      | [x, d], _ => (x, (hexValue? d).map Int.ofNat)
      | _, [x, d] => (x, (hexValue? d).map fun n => -Int.ofNat n)
      | _, _ => (t, none)
    let (r, step) := match body.splitOn "/" with
      | [x, st] => (x, hexValue? st)
      | _ => (body, some 1)
    do
      let (lo, hi) ← RangeSet.rangeOfToken? r
      pure ⟨lo, hi, ← step, ← delta, []⟩
  | _ => none

/-- What an entry sends a code point to, if it holds it. -/
def CaseEntry.image? (e : CaseEntry) (cp : Nat) : Option (List Nat) :=
  if e.lo ≤ cp ∧ cp ≤ e.hi ∧ (cp - e.lo) % e.step = 0 then
    if e.several.isEmpty then some [(cp + e.delta).toNat] else some e.several
  else none

/-- A case mapping, read: its entries by first code point. -/
structure CaseMap where
  starts : Array Nat
  entries : Array CaseEntry
  deriving Inhabited

/-- A case mapping from its text. -/
def CaseMap.ofText (text : String) : CaseMap :=
  let es := ((text.splitOn " ").filterMap CaseEntry.ofToken?).mergeSort fun a b => a.lo ≤ b.lo
  ⟨(es.map (·.lo)).toArray, es.toArray⟩

/-- The image of a code point; a code point no entry holds is kept. -/
def CaseMap.apply (m : CaseMap) (cp : Nat) : List Nat :=
  if m.starts.size = 0 ∨ cp < m.starts.getD 0 0 then [cp]
  else ((m.entries.getD (lastAtMost m.starts cp 0 m.starts.size) default).image? cp).getD [cp]

/-- The lowercase mapping, read. -/
def lowerMap : CaseMap := CaseMap.ofText lowerText

/-- The uppercase mapping, read. -/
def upperMap : CaseMap := CaseMap.ofText upperText

/-- The full lowercase mapping of a character. An ASCII character is lowered
directly: the table sends `A`–`Z` to `a`–`z` and keeps the rest of ASCII. -/
def lowerOf (c : Char) : List Char :=
  if c.toNat < 128 then [if 'A' ≤ c ∧ c ≤ 'Z' then Char.ofNat (c.toNat + 32) else c]
  else (lowerMap.apply c.toNat).map Char.ofNat

/-- The full uppercase mapping of a character. -/
def upperOf (c : Char) : List Char := (upperMap.apply c.toNat).map Char.ofNat

/-- The first character past the case-ignorable ones is cased. -/
def casedPastIgnorable : List Char → Bool
  | [] => false
  | c :: rest =>
    if caseIgnorableSet.contains c.toNat then casedPastIgnorable rest else casedSet.contains c.toNat

/-- Lowercase characters; `before` holds the characters already passed, the
nearest first. -/
def lowerChars : List Char → List Char → List Char
  | _, [] => []
  | before, c :: rest =>
    let image :=
      if c.toNat = 0x3A3 then
        if casedPastIgnorable before && !casedPastIgnorable rest then ['ς'] else ['σ']
      else lowerOf c
    image ++ lowerChars (c :: before) rest

/-- A text in lowercase. -/
def toLower (s : String) : String := String.ofList (lowerChars [] s.toList)

/-- A text in uppercase. -/
def toUpper (s : String) : String := String.ofList (s.toList.flatMap upperOf)

end RestDispatch.Unicode
