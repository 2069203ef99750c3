import Formulary.Text.Script.Western
import Formulary.Text.Script.Asian
import Formulary.Text.Script.Shared
import Formulary.Text.Basic

/-!
# Scripts

Every assigned character belongs to one script, and some are used with further ones.

## Main definitions

* `Script` : a script;
* `scripts` : all scripts;
* `Script.set` : the characters that belong to a script;
* `Script.extendedSet` : the characters that are used with it.
-/
namespace Formulary.Text

/-- A script, with its code of four letters and its other names. Names are in lower case and
without separators. -/
structure Script where
  code : String
  names : List String
  runs : List CodeRun

def scripts : List Script :=
  [⟨"armn", ["armenian"], Script.armenian⟩,
   ⟨"cari", ["carian"], Script.carian⟩,
   ⟨"aghb", ["caucasianalbanian"], Script.caucasianAlbanian⟩,
   ⟨"copt", ["coptic", "qaac"], Script.coptic⟩,
   ⟨"cprt", ["cypriot"], Script.cypriot⟩,
   ⟨"cpmn", ["cyprominoan"], Script.cyproMinoan⟩,
   ⟨"cyrl", ["cyrillic"], Script.cyrillic⟩,
   ⟨"elba", ["elbasan"], Script.elbasan⟩,
   ⟨"geor", ["georgian"], Script.georgian⟩,
   ⟨"glag", ["glagolitic"], Script.glagolitic⟩,
   ⟨"goth", ["gothic"], Script.gothic⟩,
   ⟨"grek", ["greek"], Script.greek⟩,
   ⟨"latn", ["latin"], Script.latin⟩,
   ⟨"lina", ["lineara"], Script.linearA⟩,
   ⟨"linb", ["linearb"], Script.linearB⟩,
   ⟨"lyci", ["lycian"], Script.lycian⟩,
   ⟨"lydi", ["lydian"], Script.lydian⟩,
   ⟨"ogam", ["ogham"], Script.ogham⟩,
   ⟨"hung", ["oldhungarian"], Script.oldHungarian⟩,
   ⟨"ital", ["olditalic"], Script.oldItalic⟩,
   ⟨"perm", ["oldpermic"], Script.oldPermic⟩,
   ⟨"runr", ["runic"], Script.runic⟩,
   ⟨"shaw", ["shavian"], Script.shavian⟩,
   ⟨"todr", ["todhri"], Script.todhri⟩,
   ⟨"vith", ["vithkuqi"], Script.vithkuqi⟩,
   ⟨"hluw", ["anatolianhieroglyphs"], Script.anatolianHieroglyphs⟩,
   ⟨"arab", ["arabic"], Script.arabic⟩,
   ⟨"avst", ["avestan"], Script.avestan⟩,
   ⟨"chrs", ["chorasmian"], Script.chorasmian⟩,
   ⟨"xsux", ["cuneiform"], Script.cuneiform⟩,
   ⟨"elym", ["elymaic"], Script.elymaic⟩,
   ⟨"hatr", ["hatran"], Script.hatran⟩,
   ⟨"hebr", ["hebrew"], Script.hebrew⟩,
   ⟨"armi", ["imperialaramaic"], Script.imperialAramaic⟩,
   ⟨"phli", ["inscriptionalpahlavi"], Script.inscriptionalPahlavi⟩,
   ⟨"prti", ["inscriptionalparthian"], Script.inscriptionalParthian⟩,
   ⟨"mand", ["mandaic"], Script.mandaic⟩,
   ⟨"mani", ["manichaean"], Script.manichaean⟩,
   ⟨"nbat", ["nabataean"], Script.nabataean⟩,
   ⟨"narb", ["oldnortharabian"], Script.oldNorthArabian⟩,
   ⟨"xpeo", ["oldpersian"], Script.oldPersian⟩,
   ⟨"sogo", ["oldsogdian"], Script.oldSogdian⟩,
   ⟨"sarb", ["oldsoutharabian"], Script.oldSouthArabian⟩,
   ⟨"orkh", ["oldturkic"], Script.oldTurkic⟩,
   ⟨"ougr", ["olduyghur"], Script.oldUyghur⟩,
   ⟨"palm", ["palmyrene"], Script.palmyrene⟩,
   ⟨"phnx", ["phoenician"], Script.phoenician⟩,
   ⟨"phlp", ["psalterpahlavi"], Script.psalterPahlavi⟩,
   ⟨"samr", ["samaritan"], Script.samaritan⟩,
   ⟨"sogd", ["sogdian"], Script.sogdian⟩,
   ⟨"syrc", ["syriac"], Script.syriac⟩,
   ⟨"thaa", ["thaana"], Script.thaana⟩,
   ⟨"ugar", ["ugaritic"], Script.ugaritic⟩,
   ⟨"yezi", ["yezidi"], Script.yezidi⟩,
   ⟨"adlm", ["adlam"], Script.adlam⟩,
   ⟨"bamu", ["bamum"], Script.bamum⟩,
   ⟨"bass", ["bassavah"], Script.bassaVah⟩,
   ⟨"egyp", ["egyptianhieroglyphs"], Script.egyptianHieroglyphs⟩,
   ⟨"ethi", ["ethiopic"], Script.ethiopic⟩,
   ⟨"gara", ["garay"], Script.garay⟩,
   ⟨"medf", ["medefaidrin"], Script.medefaidrin⟩,
   ⟨"mend", ["mendekikakui"], Script.mendeKikakui⟩,
   ⟨"merc", ["meroiticcursive"], Script.meroiticCursive⟩,
   ⟨"mero", ["meroitichieroglyphs"], Script.meroiticHieroglyphs⟩,
   ⟨"nkoo", ["nko"], Script.nko⟩,
   ⟨"osma", ["osmanya"], Script.osmanya⟩,
   ⟨"tfng", ["tifinagh"], Script.tifinagh⟩,
   ⟨"vaii", ["vai"], Script.vai⟩,
   ⟨"khar", ["kharoshthi"], Script.kharoshthi⟩,
   ⟨"marc", ["marchen"], Script.marchen⟩,
   ⟨"mong", ["mongolian"], Script.mongolian⟩,
   ⟨"phag", ["phagspa"], Script.phagsPa⟩,
   ⟨"soyo", ["soyombo"], Script.soyombo⟩,
   ⟨"tibt", ["tibetan"], Script.tibetan⟩,
   ⟨"zanb", ["zanabazarsquare"], Script.zanabazarSquare⟩,
   ⟨"beng", ["bengali"], Script.bengali⟩,
   ⟨"bhks", ["bhaiksuki"], Script.bhaiksuki⟩,
   ⟨"brah", ["brahmi"], Script.brahmi⟩,
   ⟨"cakm", ["chakma"], Script.chakma⟩,
   ⟨"deva", ["devanagari"], Script.devanagari⟩,
   ⟨"diak", ["divesakuru"], Script.divesAkuru⟩,
   ⟨"dogr", ["dogra"], Script.dogra⟩,
   ⟨"gran", ["grantha"], Script.grantha⟩,
   ⟨"gujr", ["gujarati"], Script.gujarati⟩,
   ⟨"gong", ["gunjalagondi"], Script.gunjalaGondi⟩,
   ⟨"guru", ["gurmukhi"], Script.gurmukhi⟩,
   ⟨"gukh", ["gurungkhema"], Script.gurungKhema⟩,
   ⟨"kthi", ["kaithi"], Script.kaithi⟩,
   ⟨"knda", ["kannada"], Script.kannada⟩,
   ⟨"khoj", ["khojki"], Script.khojki⟩,
   ⟨"sind", ["khudawadi"], Script.khudawadi⟩,
   ⟨"krai", ["kiratrai"], Script.kiratRai⟩,
   ⟨"lepc", ["lepcha"], Script.lepcha⟩,
   ⟨"limb", ["limbu"], Script.limbu⟩,
   ⟨"mahj", ["mahajani"], Script.mahajani⟩,
   ⟨"mlym", ["malayalam"], Script.malayalam⟩,
   ⟨"gonm", ["masaramgondi"], Script.masaramGondi⟩,
   ⟨"mtei", ["meeteimayek"], Script.meeteiMayek⟩,
   ⟨"modi", [], Script.modi⟩,
   ⟨"mroo", ["mro"], Script.mro⟩,
   ⟨"mult", ["multani"], Script.multani⟩,
   ⟨"nagm", ["nagmundari"], Script.nagMundari⟩,
   ⟨"nand", ["nandinagari"], Script.nandinagari⟩,
   ⟨"newa", [], Script.newa⟩,
   ⟨"olck", ["olchiki"], Script.olChiki⟩,
   ⟨"onao", ["olonal"], Script.olOnal⟩,
   ⟨"orya", ["oriya"], Script.oriya⟩,
   ⟨"saur", ["saurashtra"], Script.saurashtra⟩,
   ⟨"shrd", ["sharada"], Script.sharada⟩,
   ⟨"sidd", ["siddham"], Script.siddham⟩,
   ⟨"sinh", ["sinhala"], Script.sinhala⟩,
   ⟨"sora", ["sorasompeng"], Script.soraSompeng⟩,
   ⟨"sunu", ["sunuwar"], Script.sunuwar⟩,
   ⟨"sylo", ["sylotinagri"], Script.sylotiNagri⟩,
   ⟨"takr", ["takri"], Script.takri⟩,
   ⟨"taml", ["tamil"], Script.tamil⟩,
   ⟨"tnsa", ["tangsa"], Script.tangsa⟩,
   ⟨"telu", ["telugu"], Script.telugu⟩,
   ⟨"tirh", ["tirhuta"], Script.tirhuta⟩,
   ⟨"toto", [], Script.toto⟩,
   ⟨"tutg", ["tulutigalari"], Script.tuluTigalari⟩,
   ⟨"wcho", ["wancho"], Script.wancho⟩,
   ⟨"wara", ["warangciti"], Script.warangCiti⟩,
   ⟨"ahom", [], Script.ahom⟩,
   ⟨"bali", ["balinese"], Script.balinese⟩,
   ⟨"batk", ["batak"], Script.batak⟩,
   ⟨"bugi", ["buginese"], Script.buginese⟩,
   ⟨"buhd", ["buhid"], Script.buhid⟩,
   ⟨"cham", [], Script.cham⟩,
   ⟨"rohg", ["hanifirohingya"], Script.hanifiRohingya⟩,
   ⟨"hano", ["hanunoo"], Script.hanunoo⟩,
   ⟨"java", ["javanese"], Script.javanese⟩,
   ⟨"kawi", [], Script.kawi⟩,
   ⟨"kali", ["kayahli"], Script.kayahLi⟩,
   ⟨"khmr", ["khmer"], Script.khmer⟩,
   ⟨"laoo", ["lao"], Script.lao⟩,
   ⟨"maka", ["makasar"], Script.makasar⟩,
   ⟨"mymr", ["myanmar"], Script.myanmar⟩,
   ⟨"talu", ["newtailue"], Script.newTaiLue⟩,
   ⟨"hmnp", ["nyiakengpuachuehmong"], Script.nyiakengPuachueHmong⟩,
   ⟨"hmng", ["pahawhhmong"], Script.pahawhHmong⟩,
   ⟨"pauc", ["paucinhau"], Script.pauCinHau⟩,
   ⟨"rjng", ["rejang"], Script.rejang⟩,
   ⟨"sund", ["sundanese"], Script.sundanese⟩,
   ⟨"tglg", ["tagalog"], Script.tagalog⟩,
   ⟨"tagb", ["tagbanwa"], Script.tagbanwa⟩,
   ⟨"tale", ["taile"], Script.taiLe⟩,
   ⟨"lana", ["taitham"], Script.taiTham⟩,
   ⟨"tavt", ["taiviet"], Script.taiViet⟩,
   ⟨"thai", [], Script.thai⟩,
   ⟨"bopo", ["bopomofo"], Script.bopomofo⟩,
   ⟨"hani", ["han"], Script.han⟩,
   ⟨"hang", ["hangul"], Script.hangul⟩,
   ⟨"hira", ["hiragana"], Script.hiragana⟩,
   ⟨"kana", ["katakana"], Script.katakana⟩,
   ⟨"kits", ["khitansmallscript"], Script.khitanSmallScript⟩,
   ⟨"lisu", [], Script.lisu⟩,
   ⟨"plrd", ["miao"], Script.miao⟩,
   ⟨"nshu", ["nushu"], Script.nushu⟩,
   ⟨"tang", ["tangut"], Script.tangut⟩,
   ⟨"yiii", ["yi"], Script.yi⟩,
   ⟨"cans", ["canadianaboriginal"], Script.canadianAboriginal⟩,
   ⟨"cher", ["cherokee"], Script.cherokee⟩,
   ⟨"dsrt", ["deseret"], Script.deseret⟩,
   ⟨"osge", ["osage"], Script.osage⟩,
   ⟨"brai", ["braille"], Script.braille⟩,
   ⟨"zyyy", ["common"], Script.common⟩,
   ⟨"dupl", ["duployan"], Script.duployan⟩,
   ⟨"zinh", ["inherited", "qaai"], Script.inherited⟩,
   ⟨"sgnw", ["signwriting"], Script.signwriting⟩]

def script? (name : String) : Option Script :=
  scripts.find? fun s => s.code == name || s.names.contains name

namespace Script

def set (s : Script) : CodeSet := .ofRuns s.runs

/-- The characters that are used with a script: those that say so, and those that belong to it and
say nothing. -/
def extendedSet (s : Script) : CodeSet :=
  let spoken := CodeSet.unions (extensions.map fun e => .ofRuns e.1)
  let named := extensions.filter fun e => e.2.contains s.code
  (s.set.diff spoken).union (.unions (named.map fun e => .ofRuns e.1))

end Script

end Formulary.Text
