/-!
# Words with a plural of their own

The tables list the nouns and the endings of nouns whose plural does not follow the general rules
for English, and the pronouns.  Words are in lower case unless the table says otherwise; an ending
is compared with the last letters of a word.
-/

namespace SchemaDecl.Plural

/-- Nouns whose plural is the noun itself. -/
def uninflected : List String :=
  [
   "bream", "breeches", "britches", "cantus", "carp", "chassis", "clippers", "cod", "coitus",
   "contretemps", "corps", "debris", "diabetes", "djinn", "flounder", "gallows", "graffiti",
   "haggis", "headquarters", "herpes", "hertz", "hijinks", "innings", "jackanapes", "mackerel",
   "mews", "moose", "mumps", "news", "nexus", "offspring", "pajamas", "pence", "pincers", "pliers",
   "proceedings", "pyjamas", "quid", "rabies", "salmon", "samuri", "scissors", "sea-bass", "series",
   "shears", "siemens", "species", "subspecies", "testes", "trousers", "trout", "tuna", "whiting"]

/-- Proper nouns, capitalised, whose plural is the noun itself. -/
def uninflectedProper : List String :=
  [
   "Amoyese", "Borghese", "Congoese", "Faroese", "Foochowese", "Genevese", "Genoese", "Gilbertese",
   "Hottentotese", "Kiplingese", "Kongoese", "Lucchese", "Maltese", "Nankingese", "Niasese",
   "Pekingese", "Piedmontese", "Pistoiese", "Portuguese", "Sarawakese", "Shavese", "Vermontese",
   "Wenchowese", "Yengeese"]

/-- Endings of nouns whose plural is the noun itself. -/
def uninflectedEndings : List String :=
  [
   "baggage", "butter", "cash", "craft", "cutlery", "deer", "equipment", "fish", "furniture",
   "information", "jewelry", "lese", "livestock", "luggage", "machinery", "measles", "mese", "nese",
   "ois", "pox", "rese", "sheep"]

/-- Pronouns in the subject case, and the possessives, with their plurals. -/
def subjectPronouns : List (String × String) :=
  [
   ("i", "we"), ("myself", "ourselves"), ("you", "you"), ("yourself", "yourselves"),
   ("she", "they"), ("herself", "themselves"), ("he", "they"), ("himself", "themselves"),
   ("it", "they"), ("itself", "themselves"), ("they", "they"), ("themself", "themselves"),
   ("mine", "ours"), ("yours", "yours"), ("hers", "theirs"), ("his", "theirs"), ("its", "theirs"),
   ("theirs", "theirs")]

/-- Pronouns in the object case with their plurals. -/
def objectPronouns : List (String × String) :=
  [
   ("me", "us"), ("myself", "ourselves"), ("you", "you"), ("yourself", "yourselves"),
   ("her", "them"), ("herself", "themselves"), ("him", "them"), ("himself", "themselves"),
   ("it", "them"), ("itself", "themselves"), ("them", "them"), ("themself", "themselves")]

/-- Capitalised nouns with an irregular plural. -/
def irregularProper : List (String × String) :=
  [
   ("Romany", "Romanies"), ("Jerry", "Jerrys"), ("Mary", "Marys"), ("Rom", "Roma")]

/-- Nouns with an irregular plural; of two plurals in use the modern one. -/
def irregular : List (String × String) :=
  [
   ("child", "children"), ("chili", "chilis"), ("brother", "brothers"), ("infinity", "infinities"),
   ("loaf", "loaves"), ("lore", "lores"), ("hoof", "hoofs"), ("beef", "beefs"), ("thief", "thiefs"),
   ("money", "monies"), ("mongoose", "mongooses"), ("ox", "oxen"), ("cow", "cows"),
   ("graffito", "graffiti"), ("octopus", "octopuses"), ("genie", "genies"),
   ("ganglion", "ganglions"), ("trilby", "trilbys"), ("turf", "turfs"), ("numen", "numina"),
   ("atman", "atmas"), ("occiput", "occiputs"), ("sabretooth", "sabretooths"),
   ("sabertooth", "sabertooths"), ("lowlife", "lowlifes"), ("flatfoot", "flatfoots"),
   ("tenderfoot", "tenderfoots"), ("romany", "romanies"), ("jerry", "jerries"), ("mary", "maries"),
   ("talouse", "talouses"), ("rom", "roma"), ("carmen", "carmina"), ("corpus", "corpuses"),
   ("opus", "opuses"), ("genus", "genera"), ("mythos", "mythoi"), ("penis", "penises"),
   ("testis", "testes"), ("atlas", "atlases"), ("yes", "yeses")]

/-- Endings in `man` that are not compounds of the noun man. -/
def manEndings : List String :=
  [
   "ataman", "caiman", "cayman", "ceriman", "desman", "dolman", "farman", "harman", "hetman",
   "human", "leman", "ottoman", "shaman", "talisman"]

/-- Capitalised endings in `man` that are not compounds of the noun man. -/
def manProperEndings : List String :=
  [
   "Alabaman", "Bahaman", "Burman", "German", "Hiroshiman", "Liman", "Nakayaman", "Norman",
   "Oklahoman", "Panaman", "Roman", "Selman", "Sonaman", "Tacoman", "Yakiman", "Yokohaman", "Yuman"]

/-- The compounds of louse whose plural ends in lice. -/
def lice : List String :=
  [
   "booklouse", "grapelouse", "louse", "woodlouse"]

/-- Endings in a `ch` that is spoken as a k. -/
def hardChEndings : List String :=
  [
   "czech", "eunuch", "stomach"]

/-- Endings in `ex` that become `ices`. -/
def exToIces : List String :=
  [
   "codex", "murex", "silex"]

/-- Endings in `ix` that become `ices`. -/
def ixToIces : List String :=
  [
   "helix", "radix"]

/-- Endings in `um` that become `a`. -/
def umToA : List String :=
  [
   "agendum", "bacterium", "candelabrum", "datum", "desideratum", "erratum", "extremum", "ovum",
   "stratum"]

/-- Endings in `us` that become `i`. -/
def usToI : List String :=
  [
   "alumnus", "alveolus", "bacillus", "bronchus", "locus", "meniscus", "nucleus", "sarcophagus",
   "stimulus"]

/-- Endings in `on` that become `a`. -/
def onToA : List String :=
  [
   "aphelion", "asyndeton", "criterion", "hyperbaton", "noumenon", "organon", "perihelion",
   "phenomenon", "prolegomenon"]

/-- Endings in `a` that become `ae`. -/
def aToAe : List String :=
  [
   "alga", "alumna", "persona", "vertebra", "vita"]

/-- Nouns in `s` that are singular. -/
def singularInS : List String :=
  [
   "acropolis", "aegis", "alias", "asbestos", "bathos", "bias", "bronchitis", "bursitis", "caddis",
   "cannabis", "canvas", "chaos", "chrysalis", "clitoris", "cosmos", "dais", "digitalis",
   "ephemeris", "epidermis", "epididymis", "ethos", "eyas", "gas", "glottis", "hubris", "ibis",
   "iris", "lens", "mantis", "marquis", "metropolis", "pathos", "pelvis", "polis", "rhinoceros",
   "sassafras", "trellis"]

/-- Endings in `s` of singular nouns. -/
def singularEndingsInS : List String :=
  [
   "itis", "ss", "us"]

/-- Endings in `z` that keep a single `z`. -/
def zToZes : List String :=
  [
   "quartz", "topaz"]

/-- Endings in `ze` that only take an `s`. -/
def zeToZes : List String :=
  [
   "snooze"]

/-- Nouns in `o` that only take an `s`. -/
def oToOs : List String :=
  [
   "ISO", "NATO", "NCO", "NGO", "ado", "oto"]

/-- Endings in `o` that only take an `s`.  They are compared with words in
lower case, so an entry with a capital letter is the ending of none. -/
def oToOsEndings : List String :=
  [
   "Antananarivo", "Bamako", "Barquisimeto", "Biro", "Bolzano", "Boto", "Cairo", "Chicago",
   "Chimango", "Colombo", "Colorado", "Draco", "Esperanto", "Faro", "Filipino", "Gestapo",
   "Greensboro", "Guaiabero", "Idaho", "Iquico", "Kakapo", "Kinkimavo", "Kokako", "Kosovo",
   "Lesotho", "Lilo", "Majuro", "Malabo", "Maputo", "Maracaibo", "Mexico", "Milano", "Monaco",
   "Montenegro", "Morocco", "Muqdisho", "Ningbo", "Orinoco", "Orlando", "Oslo", "Paramaribo",
   "Pardusco", "Pluto", "Porto", "Porto-Novo", "Quito", "Sacramento", "Santiago", "Sapporo",
   "Sarajevo", "Taiko", "Togo", "Tokyo", "Torino", "Toronto", "UNESCO", "Virgo", "WHO", "WTO",
   "Yamoussoukro", "Zibo", "aficionado", "aggro", "albino", "allegro", "alto", "ammo",
   "archipelago", "armadillo", "auto", "avocado", "basso", "bimbo", "bingo", "bolero", "bongo",
   "burro", "canto", "cappuccino", "casino", "cello", "cilantro", "cochito", "coco", "commando",
   "concertino", "contango", "contralto", "credo", "crescendo", "cyano", "demo", "ditto", "dynamo",
   "embryo", "espresso", "euro", "falsetto", "fiasco", "flamenco", "furioso", "generalissimo",
   "ghetto", "gigolo", "gizmo", "gringo", "guano", "gumbo", "gyro", "hairdo", "hippo", "impetigo",
   "inferno", "info", "intermezzo", "intertrigo", "jumbo", "junto", "kilo", "libero", "libido",
   "libretto", "lido", "limbo", "limo", "lineno", "lingo", "lino", "livedo", "loco", "logo",
   "lumbago", "macho", "macro", "mafioso", "magneto", "magnifico", "manifesto", "medico", "memo",
   "metro", "micro", "mono", "myo", "neutrino", "octavo", "oregano", "panto", "pedalo", "photo",
   "piano", "pimento", "pinto", "pleco", "pogo", "polo", "poncho", "pro", "psycho", "pueblo",
   "quarto", "repo", "rhino", "risotto", "rococo", "rondo", "saddo", "sago", "salvo", "scherzando",
   "scherzo", "silo", "sirocco", "solo", "sombrero", "soprano", "staccato", "sterno", "stucco",
   "stylo", "sumo", "techno", "tempo", "terrazzo", "testudo", "timpano", "tiro", "tobacco",
   "torero", "torso", "tremolo", "typo", "tyro", "ufo", "vaquero", "vermicello", "verso", "vibrato",
   "violoncello", "virtuoso", "weirdo", "yo-yo", "zero"]

end SchemaDecl.Plural
