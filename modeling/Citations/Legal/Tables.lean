/-! # The Bluebook abbreviation tables

The words that legal citations abbreviate, each given as a pattern with its abbreviation, in
the order in which they are applied: a longer entry listed before a shorter one wins. A pattern
is text in which `.` stands for any character, parentheses group, and `|` separates
alternatives (`Africa(|n)` is `Africa` or `African`).

* Table 6: words in case names and institutional authors.
* Table 10: geographical terms: states, cities and territories of the United States, Australian
  states, Canadian provinces and territories, countries and regions.
* Table 12: month names.
* Table 13: institutional names in periodical titles.
* The keywords that mark a law journal.
-/

namespace Citations.Legal

/-- Table 6: words in case names and institutional authors. -/
def caseNameWords : List (String × String) := [
  ("Academ(ic|y)", "Acad."),
  ("Account(ant|ing|ancy)", "Acct."),
  ("Administrat(ive|ion)", "Admin."),
  ("Administrat(or|rix)", "Adm’(r|x)"),
  ("Advertising", "Advert."),
  ("Advoca(te|cy)", "Advoc."),
  ("Affair", "Aff."),
  ("Africa(|n)", "Afr."),
  ("Agricultur(e|al)", "Agric."),
  ("Alliance", "All."),
  ("Alternative", "Alt."),
  ("America(|n)", "Am."),
  ("Ancestry", "Anc."),
  ("and", "&"),
  ("Annual", "Ann."),
  ("Appellate", "App."),
  ("Arbitrat(ion|or)", "Arb."),
  ("Artificial Intelligence", "A.I."),
  ("Associate", "Assoc."),
  ("Association", "Ass'n"),
  ("Atlantic", "Atl."),
  ("Attorney", "Att'y"),
  ("Authority", "Auth."),
  ("Automo(bile|tive)", "Auto."),
  ("Avenue", "Ave."),
  ("Bankruptcy", "Bankr."),
  ("Behavior(|al)", "Behav."),
  ("Board", "Bd."),
  ("British", "Brit."),
  ("Broadcast(er|ing)", "Broad."),
  ("Building", "Bldg."),
  ("Bulletin", "Bull."),
  ("Business(|es)", "Bus."),
  ("Capital", "Cap."),
  ("Casualt(y|ies)", "Cas."),
  ("Catholic", "Cath."),
  ("Cent(er|re)", "Ctr."),
  ("Central", "Cent."),
  ("Chemical", "Chem."),
  ("Children", "Child."),
  ("Chronicle", "Chron."),
  ("Circuit", "Cir."),
  ("Civil", "Civ."),
  ("Civil Libert(y|ies)", "C.L."),
  ("Civil Rights", "C.R."),
  ("Coalition", "Coal."),
  ("College", "Coll."),
  ("Commentary", "Comment."),
  ("Commerc(e|ial)", "Com."),
  ("Commission", "Comm'n"),
  ("Commissioner", "Comm'r"),
  ("Committee", "Comm."),
  ("Communication", "Commc'n"),
  ("Community", "Cmty."),
  ("Company", "Co."),
  ("Comparative", "Compar."),
  ("Compensation", "Comp."),
  ("Computer", "Comput."),
  ("Condominium", "Condo."),
  ("Conference", "Conf."),
  ("Congress(|ional)", "Cong."),
  ("Consolidated", "Consol."),
  ("Constitution(|al)", "Const."),
  ("Construction", "Constr."),
  ("Contemporary", "Contemp."),
  ("Continental", "Cont'l"),
  ("Contract", "Cont."),
  ("Conveyance(|r)", "Conv."),
  ("Cooperat(ion|ive)", "Coop."),
  ("Corporat(e|ion)", "Corp."),
  ("Correction(s|al)", "Corr."),
  ("Cosmetic", "Cosm."),
  ("Counsel(or|ors|or's)", "Couns."),
  ("County", "Cnty."),
  ("Court", "Ct."),
  ("Criminal", "Crim."),
  ("Defen(d|der|se)", "Def."),
  ("Delinquen(t|cy)", "Delinq."),
  ("Department", "Dep't"),
  ("Detention", "Det."),
  ("Develop(er|ment)", "Dev."),
  ("Digest", "Dig."),
  ("Digital", "Digit."),
  ("Diplomacy", "Dipl."),
  ("Director", "Dir."),
  ("Discount", "Disc."),
  ("Dispute", "Disp."),
  ("Distribut(or|ing|ion)", "Distrib."),
  ("District", "Dist."),
  ("Division", "Div."),
  ("Doctor", "Dr."),
  ("East(|ern)", "E."),
  ("Econom(ic|ical|ics|y)", "Econ."),
  ("Editor(|ial)", "Ed."),
  ("Education(|al)", "Educ."),
  ("Electr(ic|ical|icity|onic)", "Elec."),
  ("Employ(ee|er|ment)", "Emp."),
  ("Enforcement", "Enf't"),
  ("Engineer", "Eng'r"),
  ("Engineering", "Eng'g"),
  ("English", "Eng."),
  ("Enterprise", "Enter."),
  ("Entertainment", "Ent."),
  ("Environment(|al)", "Env't"),
  ("Equality", "Equal."),
  ("Equipment", "Equip."),
  ("Estate", "Est."),
  ("Europe(|an)", "Eur."),
  ("Examiner", "Exam'r"),
  ("Exchange", "Exch."),
  ("Executive", "Exec."),
  ("Execut(or|rix)", "Ex'(r|x)"),
  ("Explorat(ion|ory)", "Expl."),
  ("Export(er|ation)", "Exp."),
  ("Faculty", "Fac."),
  ("Family", "Fam."),
  ("Federal", "Fed."),
  ("Federation", "Fed'n"),
  ("Fidelity", "Fid."),
  ("Financ(e|ial|ing)", "Fin."),
  ("Fortnightly", "Fort."),
  ("Forum", "F."),
  ("Foundation", "Found."),
  ("General", "Gen."),
  ("Global", "Glob."),
  ("Government", "Gov't"),
  ("Group", "Grp."),
  ("Guarant(y|or)", "Guar."),
  ("Hispanic", "Hisp."),
  ("Histor(ical|y)", "Hist."),
  ("Hospital(|ity)", "Hosp."),
  ("Housing", "Hous."),
  ("Human", "Hum."),
  ("Humanity", "Human."),
  ("Immigration", "Immigr."),
  ("Import(er|ation)", "Imp."),
  ("Incorporated", "Inc."),
  ("Indemnity", "Indem."),
  ("Independen(ce|t)", "Indep."),
  ("Industr(y|ial|ies)", "Indus."),
  ("Inequality", "Ineq."),
  ("Information", "Info."),
  ("Injury", "Inj."),
  ("Institut(e|ion)", "Inst."),
  ("Insurance", "Ins."),
  ("Intellectual", "Intell."),
  ("Intelligence", "Intel."),
  ("Interdisciplinary", "Interdisc."),
  ("Interest", "Int."),
  ("International", "Int'l"),
  ("Invest(ment|or)", "Inv."),
  ("Journal(|s)", "J."),
  ("Judicial", "Jud."),
  ("Juridical", "Jurid."),
  ("Jurisprudence", "Juris."),
  ("Justice", "Just."),
  ("Juvenile", "Juv."),
  ("Labor", "Lab."),
  ("Laboratory", "Lab'y"),
  ("Law(|s)", "L."),
  ("Lawyer", "Law."),
  ("Legislat(ion|ive)", "Legis."),
  ("Liability", "Liab."),
  ("Librar(y|ian)", "Libr."),
  ("Limited", "Ltd."),
  ("Litigation", "Litig."),
  ("Local", "Loc."),
  ("Machine(|ry)", "Mach."),
  ("Magazine", "Mag."),
  ("Maintenance", "Maint."),
  ("Management", "Mgmt."),
  ("Manufacturer", "Mfr."),
  ("Manufacturing", "Mfg."),
  ("Maritime", "Mar."),
  ("Market", "Mkt."),
  ("Marketing", "Mktg."),
  ("Matrimonial", "Matrim."),
  ("Mechanic(|al)", "Mech."),
  ("Medic(al|inal|ine)", "Med."),
  ("Memorial", "Mem'l"),
  ("Merchan(t|dise|dising)", "Merch."),
  ("Metropolitan", "Metro."),
  ("Military", "Mil."),
  ("Mineral", "Min."),
  ("Modern", "Mod."),
  ("Mortgage", "Mortg."),
  ("Municipal(|ity)", "Mun."),
  ("Mutual", "Mut."),
  ("National", "Nat'l"),
  ("Nationality", "Nat'y"),
  ("Natural", "Nat."),
  ("Negligence", "Negl."),
  ("Negotiat(ion|or)", "Negot."),
  ("Newsletter", "Newsl."),
  ("North(|ern)", "N."),
  ("Northeast(|ern)", "Ne."),
  ("Northwest(|ern)", "Nw."),
  ("Number", "No."),
  ("Offic(e|ial)", "Off."),
  ("Opinion", "Op."),
  ("Order", "Ord."),
  ("Organiz(ation|ing)", "Org."),
  ("Pacific", "Pac."),
  ("Parish", "Par."),
  ("Partnership", "P'ship"),
  ("Patent", "Pat."),
  ("Person(al|nel)", "Pers."),
  ("Perspective", "Persp."),
  ("Pharmaceutic(|al)", "Pharm."),
  ("Philosoph(ical|y)", "Phil."),
  ("Planning", "Plan."),
  ("Policy", "Pol'y"),
  ("Politic(al|s)", "Pol."),
  ("Practi(cal|ce|titioner)", "Prac."),
  ("Preserv(e|ation)", "Pres."),
  ("Priva(cy|te)", "Priv."),
  ("Probat(e|ion)", "Prob."),
  ("Problems", "Probs."),
  ("Proce(edings|dure)", "Proc."),
  ("Product(|ion)", "Prod."),
  ("Profession(|al)", "Pro."),
  ("Property", "Prop."),
  ("Protection", "Prot."),
  ("Psycholog(ical|ist|y)", "Psych."),
  ("Public", "Pub."),
  ("Publication", "Publ'n"),
  ("Publishing", "Publ'g"),
  ("Quarterly", "Q."),
  ("Railroad", "R.R."),
  ("Railway", "Ry."),
  ("Record", "Rec."),
  ("Referee", "Ref."),
  ("Refin(ing|ement)", "Refin."),
  ("Regional", "Reg'l"),
  ("Register", "Reg."),
  ("Regulat(ion|or|ory)", "Regul."),
  ("Rehabilitat(ion|ive)", "Rehab."),
  ("Relation", "Rel."),
  ("Report(|er)", "Rep."),
  ("Reproduct(ion|ive)", "Reprod."),
  ("Research", "Rsch."),
  ("Reserv(ation|e)", "Rsrv."),
  ("Resolution", "Resol."),
  ("Resource(|s)", "Res."),
  ("Responsibility", "Resp."),
  ("Restaurant", "Rest."),
  ("Retirement", "Ret."),
  ("Review|Revista", "Rev."),
  ("Rights", "Rts."),
  ("Road", "Rd."),
  ("Savings", "Sav."),
  ("School", "Sch."),
  ("Scien(ce|tific)", "Sci."),
  ("Scottish", "Scot."),
  ("Secretary", "Sec'y"),
  ("Securit(y|ies)", "Sec."),
  ("Sentencing", "Sent'g"),
  ("Service", "Serv."),
  ("Shareholder|Stockholder", "S'holder"),
  ("Social", "Soc."),
  ("Society", "Soc'y"),
  ("Sociolog(ical|y)", "Socio."),
  ("Solicitor", "Solic."),
  ("Solution", "Sol."),
  ("South(|ern)", "S."),
  ("Southeast(|ern)", "Se."),
  ("Southwest(|ern)", "Sw."),
  ("Statistic(s|al)", "Stat."),
  ("Steamship(|s)", "S.S."),
  ("Street", "St."),
  ("Studies", "Stud."),
  ("Subcommittee", "Subcomm."),
  ("Supreme Court", "Sup. Ct."),
  ("Surety", "Sur."),
  ("Survey", "Surv."),
  ("Symposium", "Symp."),
  ("System(|s)", "Sys."),
  ("Taxation", "Tax'n"),
  ("Teacher", "Tchr."),
  ("Techn(ical|ique|ology|ological)", "Tech."),
  ("Telecommunication", "Telecomm."),
  ("Tele(phone|graph)", "Tel."),
  ("Temporary", "Temp."),
  ("Township", "Twp."),
  ("Transcontinental", "Transcon."),
  ("Transnational", "Transnat'l"),
  ("Transport(|ation)", "Transp."),
  ("Tribune", "Trib."),
  ("Trust(|ee)", "Tr."),
  ("Turnpike", "Tpk."),
  ("Uniform", "Unif."),
  ("United States", "U.S."),
  ("University", "Univ."),
  ("Urban", "Urb."),
  ("Utility", "Util."),
  ("Village", "Vill."),
  ("Week", "Wk."),
  ("Weekly", "Wkly."),
  ("West(|ern)", "W."),
  ("Year(| )book", "Y.B.")]

/-- Table 10: the states of the United States. -/
def usStates : List (String × String) := [
  ("Alabama", "Ala."),
  ("Alaska", "Alaska"),
  ("Arizona", "Ariz."),
  ("Arkansas", "Ark."),
  ("California", "Cal."),
  ("Colorado", "Colo."),
  ("Connecticut", "Conn."),
  ("Delaware", "Del."),
  ("Florida", "Fla."),
  ("Georgia", "Ga."),
  ("Hawaii", "Haw."),
  ("Idaho", "Idaho"),
  ("Illinois", "Ill."),
  ("Indiana", "Ind."),
  ("Iowa", "Iowa"),
  ("Kansas", "Kan."),
  ("Kentucky", "Ky."),
  ("Louisiana", "La."),
  ("Maine", "Me."),
  ("Maryland", "Md."),
  ("Massachusetts", "Mass."),
  ("Michigan", "Mich."),
  ("Minnesota", "Minn."),
  ("Mississippi", "Miss."),
  ("Missouri", "Mo."),
  ("Montana", "Mont."),
  ("Nebraska", "Neb."),
  ("Nevada", "Nev."),
  ("New Hampshire", "N.H."),
  ("New Jersey", "N.J."),
  ("New Mexico", "N.M."),
  ("New York", "N.Y."),
  ("North Carolina", "N.C."),
  ("North Dakota", "N.D."),
  ("Ohio", "Ohio"),
  ("Oklahoma", "Okla."),
  ("Oregon", "Or."),
  ("Pennsylvania", "Pa."),
  ("Rhode Island", "R.I."),
  ("South Carolina", "S.C."),
  ("South Dakota", "S.D."),
  ("Tennessee", "Tenn."),
  ("Texas", "Tex."),
  ("Utah", "Utah"),
  ("Vermont", "Vt."),
  ("Virginia", "Va."),
  ("Washington", "Wash."),
  ("West Virginia", "W. Va."),
  ("Wisconsin", "Wis."),
  ("Wyoming", "Wyo.")]

/-- Table 10: cities of the United States. -/
def usCities : List (String × String) := [
  ("Baltimore", "Balt."),
  ("Boston", "Bos."),
  ("Chicago", "Chi."),
  ("Dallas", "Dall."),
  ("District of Columbia", "D.C."),
  ("Houston", "Hous."),
  ("Los Angeles", "L.A."),
  ("Miami", "Mia."),
  ("New York", "N.Y.C."),
  ("Philadelphia", "Phila."),
  ("Phoenix", "Phx."),
  ("San Francisco", "S.F.")]

/-- Table 10: territories of the United States. -/
def usTerritories : List (String × String) := [
  ("American Samoa", "Am. Sam."),
  ("Guam", "Guam"),
  ("Northern Mariana Islands", "N. Mar. I."),
  ("Puerto Rico", "P.R."),
  ("Virgin Islands", "V.I.")]

/-- Table 10: Australian states and territories. -/
def australianStates : List (String × String) := [
  ("Australian Capital Territory", "Austl. Cap. Terr."),
  ("New South Wales", "N.S.W."),
  ("Northern Territory", "N. Terr."),
  ("Queensland", "Queensl."),
  ("South Australia", "S. Austl."),
  ("Tasmania", "Tas."),
  ("Victoria", "Vict."),
  ("Western Australia", "W. Austl.")]

/-- Table 10: Canadian provinces and territories. -/
def canadianProvinces : List (String × String) := [
  ("Alberta", "Alta."),
  ("British Columbia", "B.C."),
  ("Manitoba", "Man."),
  ("New Brunswick", "N.B."),
  ("Newfoundland & Labrador", "Nfld."),
  ("Northwest Territories", "N.W.T."),
  ("Nova Scotia", "N.S."),
  ("Nunavut", "Nun."),
  ("Ontario", "Ont."),
  ("Prince Edward Island", "P.E.I."),
  ("Québec", "Que."),
  ("Saskatchewan", "Sask."),
  ("Yukon", "Yukon")]

/-- Table 10: countries and regions. -/
def countriesAndRegions : List (String × String) := [
  ("Afghanistan", "Afg."),
  ("Africa", "Afr."),
  ("Albania", "Alb."),
  ("Algeria", "Alg."),
  ("Andorra", "Andorra"),
  ("Angola", "Angl."),
  ("Anguilla", "Anguilla"),
  ("Antarctica", "Antarctica"),
  ("Antigua & Barbuda", "Ant. & Barb."),
  ("Argentina", "Arg."),
  ("Armenia", "Arm."),
  ("Asia", "Asia"),
  ("Australia", "Austl."),
  ("Austria", "Austria"),
  ("Azerbaijan", "Azer."),
  ("Bahamas", "Bah."),
  ("Bahrain", "Bahr."),
  ("Bangladesh", "Bangl."),
  ("Barbados", "Barb."),
  ("Belarus", "Belr."),
  ("Belgium", "Belg."),
  ("Belize", "Belize"),
  ("Benin", "Benin"),
  ("Bermuda", "Berm."),
  ("Bhutan", "Bhutan"),
  ("Bolivia", "Bol."),
  ("Bosnia & Herzegovina", "Bosn. & Herz."),
  ("Botswana", "Bots."),
  ("Brazil", "Braz."),
  ("Brunei", "Brunei"),
  ("Bulgaria", "Bulg."),
  ("Burkina Faso", "Burk. Faso"),
  ("Burundi", "Burundi"),
  ("Cambodia", "Cambodia"),
  ("Cameroon", "Cameroon"),
  ("Canada", "Can."),
  ("Cape Verde", "Cape Verde"),
  ("Cayman Islands", "Cayman Is."),
  ("Central African Republic", "Cent. Afr. Rep."),
  ("Chad", "Chad"),
  ("Chile", "Chile"),
  ("China, People’s Republic of", "China"),
  ("Colombia", "Colom."),
  ("Comoros", "Comoros"),
  ("Congo, Democratic Republic of the", "Dem. Rep. Congo"),
  ("Congo, Republic of the", "Congo"),
  ("Costa Rica", "Costa Rica"),
  ("Côte d’Ivoire", "Côte d’Ivoire"),
  ("Croatia", "Croat."),
  ("Cuba", "Cuba"),
  ("Cyprus", "Cyprus"),
  ("Czech Republic", "Czech"),
  ("Denmark", "Den."),
  ("Djibouti", "Djib."),
  ("Dominica", "Dominica"),
  ("Dominican Republic", "Dom. Rep."),
  ("Ecuador", "Ecuador"),
  ("Egypt", "Egypt"),
  ("El Salvador", "El Sal."),
  ("England", "Eng."),
  ("Equatorial Guinea", "Eq. Guinea"),
  ("Eritrea", "Eri."),
  ("Estonia", "Est."),
  ("Ethiopia", "Eth."),
  ("Europe", "Eur."),
  ("Falkland Islands", "Falkland Is."),
  ("Fiji", "Fiji"),
  ("Finland", "Fin."),
  ("France", "Fr."),
  ("Gabon", "Gabon"),
  ("Gambia", "Gam."),
  ("Georgia", "Geor."),
  ("Germany", "Ger."),
  ("Ghana", "Ghana"),
  ("Gibraltar", "Gib."),
  ("Great Britain", "Gr. Brit."),
  ("Greece", "Greece"),
  ("Greenland", "Green."),
  ("Grenada", "Gren."),
  ("Guadeloupe", "Guad."),
  ("Guatemala", "Guat."),
  ("Guinea", "Guinea"),
  ("Guinea-Bissau", "Guinea-Bissau"),
  ("Guyana", "Guy."),
  ("Haiti", "Haiti"),
  ("Honduras", "Hond."),
  ("Hong Kong", "H.K."),
  ("Hungary", "Hung."),
  ("Iceland", "Ice."),
  ("India", "India"),
  ("Indonesia", "Indon."),
  ("Iran", "Iran"),
  ("Iraq", "Iraq"),
  ("Ireland", "Ir."),
  ("Israel", "Isr."),
  ("Italy", "It."),
  ("Jamaica", "Jam."),
  ("Japan", "Japan"),
  ("Jordan", "Jordan"),
  ("Kazakhstan", "Kaz."),
  ("Kenya", "Kenya"),
  ("Kiribati", "Kiribati"),
  ("Korea, North", "N. Kor."),
  ("Korea, South", "S. Kor."),
  ("Kosovo", "Kos."),
  ("Kuwait", "Kuwait"),
  ("Kyrgyzstan", "Kyrg."),
  ("Laos", "Laos"),
  ("Latvia", "Lat."),
  ("Lebanon", "Leb."),
  ("Lesotho", "Lesotho"),
  ("Liberia", "Liber."),
  ("Libya", "Libya"),
  ("Liechtenstein", "Liech."),
  ("Lithuania", "Lith."),
  ("Luxembourg", "Lux."),
  ("Macau", "Mac."),
  ("Macedonia", "Maced."),
  ("Madagascar", "Madag."),
  ("Malawi", "Malawi"),
  ("Malaysia", "Malay."),
  ("Maldives", "Maldives"),
  ("Mali", "Mali"),
  ("Malta", "Malta"),
  ("Marshall Islands", "Marsh. Is."),
  ("Martinique", "Mart."),
  ("Mauritania", "Mauritania"),
  ("Mauritius", "Mauritius"),
  ("Mexico", "Mex."),
  ("Micronesia", "Micr."),
  ("Moldova", "Mold."),
  ("Monaco", "Monaco"),
  ("Mongolia", "Mong."),
  ("Montenegro", "Montenegro"),
  ("Montserrat", "Montserrat"),
  ("Morocco", "Morocco"),
  ("Mozambique", "Mozam."),
  ("Myanmar", "Myan."),
  ("Namibia", "Namib."),
  ("Nauru", "Nauru"),
  ("Nepal", "Nepal"),
  ("Netherlands", "Neth."),
  ("New Zealand", "N.Z."),
  ("Nicaragua", "Nicar."),
  ("Niger", "Niger"),
  ("Nigeria", "Nigeria"),
  ("North America", "N. Am."),
  ("Northern Ireland", "N. Ir."),
  ("Norway", "Nor."),
  ("Oman", "Oman"),
  ("Pakistan", "Pak."),
  ("Palau", "Palau"),
  ("Panama", "Pan."),
  ("Papua New Guinea", "Papua N.G."),
  ("Paraguay", "Para."),
  ("Peru", "Peru"),
  ("Philippines", "Phil."),
  ("Pitcairn Island", "Pitcairn Is."),
  ("Poland", "Pol."),
  ("Portugal", "Port."),
  ("Qatar", "Qatar"),
  ("Réunion", "Réunion"),
  ("Romania", "Rom."),
  ("Russia", "Russ."),
  ("Rwanda", "Rwanda"),
  ("Saint Helena", "St. Helena"),
  ("Saint Kitts & Nevis", "St. Kitts & Nevis"),
  ("Saint Lucia", "St. Lucia"),
  ("Saint Vincent & the Grenadines", "St. Vincent"),
  ("Samoa", "Samoa"),
  ("San Marino", "San Marino"),
  ("São Tomé and Príncipe", "São Tomé & Príncipe"),
  ("Saudi Arabia", "Saudi Arabia"),
  ("Scotland", "Scot."),
  ("Senegal", "Sen."),
  ("Serbia", "Serb."),
  ("Seychelles", "Sey."),
  ("Sierra Leone", "Sierra Leone"),
  ("Singapore", "Sing."),
  ("Slovakia", "Slovk."),
  ("Slovenia", "Slovn."),
  ("Solomon Islands", "Solom. Is."),
  ("Somalia", "Som."),
  ("South Africa", "S. Afr."),
  ("South America", "S. Am."),
  ("Spain", "Spain"),
  ("Sri Lanka", "Sri Lanka"),
  ("Sudan", "Sudan"),
  ("Suriname", "Surin."),
  ("Swaziland", "Swaz."),
  ("Sweden", "Swed."),
  ("Switzerland", "Switz."),
  ("Syria", "Syria"),
  ("Taiwan", "Taiwan"),
  ("Tajikistan", "Taj."),
  ("Tanzania", "Tanz."),
  ("Thailand", "Thai."),
  ("Timor-Leste (East Timor)", "Timor-Leste"),
  ("Togo", "Togo"),
  ("Tonga", "Tonga"),
  ("Trinidad & Tobago", "Trin. & Tobago"),
  ("Tunisia", "Tunis."),
  ("Turkey", "Turk."),
  ("Turkmenistan", "Turkm."),
  ("Turks & Caicos Islands", "Turks & Caicos Is."),
  ("Tuvalu", "Tuvalu"),
  ("Uganda", "Uganda"),
  ("Ukraine", "Ukr."),
  ("United Arab Emirates", "U.A.E."),
  ("United Kingdom", "U.K."),
  ("United States of America", "U.S."),
  ("Uruguay", "Uru."),
  ("Uzbekistan", "Uzb."),
  ("Vanuatu", "Vanuatu"),
  ("Vatican City", "Vatican"),
  ("Venezuela", "Venez."),
  ("Vietnam", "Viet."),
  ("Virgin Islands, British", "Virgin Is."),
  ("Wales", "Wales"),
  ("Yemen", "Yemen"),
  ("Zambia", "Zam."),
  ("Zimbabwe", "Zim.")]

/-- Table 13: institutional names in periodical titles. -/
def periodicalWords : List (String × String) := [
  ("Adelaide", "Adel."),
  ("Air Force", "A.F."),
  ("Albany", "Alb."),
  ("American Bar Association (ABA)", "A.B.A."),
  ("American Intellectual Property Law Association", "AIPLA"),
  ("American Law Institute", "A.L.I."),
  ("Journal of the American Medical Association", "JAMA"),
  ("American Medical Association", "AMA"),
  ("American Society of Composers, Authors & Publishers", "ASCAP"),
  ("American University", "Am. U."),
  ("Boston College", "B.C."),
  ("Boston University", "B.U."),
  ("Brigham Young University", "BYU"),
  ("Brooklyn", "Brook."),
  ("Buffalo", "Buff."),
  ("California Law Review", "Calif. L. Rev."),
  ("Capital", "Cap."),
  ("Chapman", "Chap."),
  ("Chartered Life Underwriters", "C.L.U."),
  ("Cincinnati", "Cin."),
  ("City University of New York", "CUNY"),
  ("Cleveland", "Clev."),
  ("Columbia", "Colum."),
  ("Cumberland", "Cumb."),
  ("Denver", "Denv."),
  ("Detroit", "Det."),
  ("Dickinson", "Dick."),
  ("Duquesne", "Duq."),
  ("East(|ern)", "E."),
  ("Florida International University", "FIU"),
  ("Foreign Broadcast Information Service", "F.B.I.S."),
  ("George Mason", "Geo. Mason"),
  ("George Washington", "Geo. Wash."),
  ("Georgetown", "Geo."),
  ("Gonzaga", "Gonz."),
  ("Harvard", "Harv."),
  ("Howard", "How."),
  ("John Marshall", "J. Marshall"),
  ("Judge Advocate General(|'s)", "JAG"),
  ("Las Vegas", "L.V."),
  ("Lawyers Reports Annotated", "L.R.A."),
  ("Loyola", "Loy."),
  ("Marquette", "Marq."),
  ("Melbourne", "Melb."),
  ("Memphis", "Mem."),
  ("New England", "New Eng."),
  ("New York University(| School of Law)", "N.Y.U."),
  ("North(|ern)", "N."),
  ("Northeast(|ern)", "Ne."),
  ("Northwest(|ern)", "Nw."),
  ("Pepperdine", "Pepp."),
  ("Pittsburgh", "Pitt."),
  ("Richmond", "Rich."),
  ("Rocky Mountain Mineral Law Institute", "Rocky Mtn. Min. L. Inst."),
  ("Saint Louis", "St. Louis"),
  ("San Fernando Valley", "San Fern. V."),
  ("South(|ern)", "S."),
  ("Southeast(|ern)", "Se."),
  ("Southern Methodist University", "SMU"),
  ("Southwest(|ern)", "Sw."),
  ("Stanford", "Stan."),
  ("State", "St."),
  ("Temple", "Temp."),
  ("Thomas Jefferson", "T. Jefferson"),
  ("Thomas M. Cooley", "T.M. Cooley"),
  ("Thurgood Marshall", "T. Marshall"),
  ("Toledo", "Tol."),
  ("Tulane", "Tul."),
  ("Universidad de Puerto Rico", "U. P.R."),
  ("University of California", "U.C."),
  ("University of California - Los Angeles", "UCLA"),
  ("University of Missouri Kansas City", "UMKC"),
  ("University of the District of Columbia, David A. Clarke School of Law", "UDC/DCSL"),
  ("University of West Los Angeles", "UWLA"),
  ("Valparaiso", "Val."),
  ("Vanderbilt", "Vand."),
  ("Villanova", "Vill."),
  ("Washington & Lee", "Wash. & Lee"),
  ("West(|ern)", "W."),
  ("William & Mary", "Wm. & Mary"),
  ("William Mitchell", "Wm. Mitchell")]

/-- Table 12: month names. -/
def monthWords : List (String × String) := [
  ("January", "Jan."),
  ("February", "Feb."),
  ("March", "Mar."),
  ("April", "Apr."),
  ("May", "May"),
  ("June", "June"),
  ("July", "July"),
  ("August", "Aug."),
  ("September", "Sept."),
  ("October", "Oct."),
  ("November", "Nov."),
  ("December", "Dec.")]

/-- Keywords that mark a periodical as a law journal. -/
def lawKeywords : List String := [
  "bankruptcy",
  "bar",
  "bill of rights",
  "circuit",
  "civil (libert(y|ies)|right(|s))",
  "constitution(|al)",
  "court(|s)",
  "dispute(|s)",
  "intellectual",
  "justice",
  "law",
  "legal",
  "legislation",
  "litigation",
  "national security",
  "patent",
  "regulation",
  "tax",
  "trademark"]

/-- Table 10: all geographical terms, in order. -/
def geographicalTerms : List (String × String) :=
  usStates ++ usCities ++ usTerritories ++ australianStates ++ canadianProvinces ++
    countriesAndRegions

end Citations.Legal
