/-!
# The table of names

The names of the characters of Unicode 14, in runs of code points that follow one another. For another
version, this text is written anew and packed again; nothing else changes. A run begins with a bar. A
name is written as a small letter, which says how many characters at the end of the name before it
are dropped (`a` for none, `t` for nineteen, `z` for all), and the characters that are put in their
place. A code point without a name repeats the name before it. The last runs hold further names of
code points: of control characters, corrections, abbreviations.
-/

namespace SchemaGuard.Text

/-- The first code points of the runs. -/
def nameRuns : List Nat := [
  0x20, 0x4dc0, 0xa000, 0xd7b0, 0xfb00, 0x10000, 0x10280, 0x10600, 0x10800, 0x10980, 0x10c00,
  0x10e60, 0x10f00, 0x11280, 0x11400, 0x11580, 0x11800, 0x118a0, 0x119a0, 0x11c00, 0x11d00,
  0x11ee0, 0x11fb0, 0x12400, 0x12f90, 0x14400, 0x16800, 0x16e40, 0x16f00, 0x16fe0, 0x18800,
  0x1aff0, 0x1bc00, 0x1cf00, 0x1d2e0, 0x1d400, 0x1df00, 0x1e000, 0x1e100, 0x1e290, 0x1e7e0,
  0x1ec71, 0x1ed01, 0x1ee00, 0x1f000, 0x1f300, 0x1f900, 0xe0001, 0xe0100, 0x0, 0x7f, 0xad, 0x1a2,
  0x34f, 0x61c, 0x709, 0xcde, 0xe9d, 0xe9f, 0xea3, 0xea5, 0xfd0, 0x11ec, 0x180b, 0x200b, 0x202a,
  0x205f, 0x2066, 0x2118, 0x2448, 0x2b7a, 0x2b7c, 0xa015, 0xaa6e, 0xfe18, 0xfeff, 0x122d4, 0x16e56,
  0x16e76, 0x1b001, 0x1d0c5, 0x0, 0x7f, 0xfeff, 0x9, 0xe, 0x1c, 0x88, 0x91, 0x96, 0xfeff, 0x9, 0xa,
  0xa]

/-- The characters of the table. -/
def nameAlphabet : String := "0123456789abcdefghijklmnopqrstz| -EAIOUYHWTNSRLDCMGPBFKVJXQZ"

/-- How many characters the table has. -/
def nameTableLength : Nat := 356448

/-- The packed text of the table. Line breaks mean nothing. -/
def packedNames : String := "
Oc3&7r~5qt:z0$NO%yPD$ux@zyCOx)-[Cj^,q4~tOhghBW>-6~&=SC=h&fuOn@qw&>S(2I7tlt_Rd,wY^^G39&1<<=&v.*s-KDI
7P:7M@|l_f~23dhfHXK+8%d|ux):hBfnh.AoJeG4-tz!]>F^W1b696$52ORYpKc;YF.5*kBf~&B^NdfL%J9xQ9xLgMsD&+,z'ZV
h+.pyV?AYX&0PobMwp^HfQ(<jL+6r<fS5!2#>B8.)N.lr:LCdOBjG9rS%9?F0cKNld.r=(nJSk-?s!T]QoWlH.jf8aG[oz+TmjI
K$<~uvG|R~6g:U&Kc#XP4qjKRhHwKvmsS3bGUZ5|,-;E~IQsWRmR%l@!bp'S50I71>qB_>)Zxd)n@Fs>RG^AK3^tgM%pAT|mi+3
d|iKjkF|evCCxR!0(36!y!vUrUE3U.36k*67ZT))1mBb50?eNR@iD'UXN^>PlefWqTnyg)7tV)<UsB-C]A';-v$![HX'p0l9N,_
|,X~G$WpXtDvKT-vN3W@a4As)<fji=rz>bR;wJZg!y>,qa&0BZA<_r|N7W?R3),vn[u$,.8'7(qw$h!INuZZ4B^$,W%>>$1u=w2
>2J$onj->VxsJIfJGobU=gXM<;K),c.1OGB-faF;Vp%,-ypG-?H99pPP?_YLJgg$b%C,PuRt?IPA1N-|4w,LP*9<+wiK,FINA+!
ZawT4cx*h~R4)h_5d%VTV&Jm<:oqO%YT7Bhlv;[%P@ei5W8'<b|f[yN>=)yluuRXBETGt4meHa28:6J+J780ha|K,dQZGgL,4Vf
DE1>6wF>rw~DwLxERf(PdK>'jW<DVT,d2S(hgc^KvfGWIPkP~UpY>j,)3Nx8io9RFTm[W'1r1=ElLNpC$jL!r#BoI4=(rpO,[f4
)6W48Kao@u5>:6)1soJvv<|$|9q;:T,RS2]c_Bn[R,QRt:nGfCgK4A<4(Y3_vTB~cb|I7k?|$R5d[R;za:Q)(X#K*v.@Swqo@Bv
4kgRzt>f*]4'[+RY'+<...5M=LT7l*vF*u64C,<!IIB5#YI99ozq[teO!1g;y^i=l?!Qk4xj15ZsJ*Xnk.cq!~KSg9ZydeP1VTN
Lc7V~SD0?_)Wi1V@r:N8X*uJ+w>i?l<'RTYz70AQ*,_'>c;c:^&b+'.jatgEx6?~8@Gm)KQ=;OV2ty?(o6F|BpFvTq$(i@HE]hE
*:YNl7e7&%6fvTd#a;g)?V@]fg$M7^<~N!E^-_.i(nK]#B4j8K:9?#4peiFKIjn1LW32o=Mid)~&FL(KTht,)X-Dk=1P9i>O$W0
(Y!U]zenPRE];%%b#H$#pPMM0CTJ0FodUqA>ng6:H|~.)X|h<|m0[c:T5zjpE[.)~Qln|pmrgG|g)P[|lgAS@J1f*FruUq-7hAu
AZA?x9QosK;@+lAm!W+@W*2c81;Lkdh70ZfXRU=mNHs]3t%mHyb<P~xpsPdra1Pp[r)tiyCYVQ!__7k>|g]uYoKi*Rx3=AN0iu#
b-5IB13.2?JsQ@Kd')ulE|Jdz0v:4mMvOZ87t*!&!XaMD@=(Phe:B3CtxS,dG8rU8!pQR1%0<t?)+7=>X9xLZV23w4I3Cw-&]'$
[PYTj$>tcDPisX@bNFa~0$zPh3pw-@+$zWuv)Sfq4h]N]<.])L7!_jJ5n(r0bWr_yZe~y89$ak9?,$4?jX[e8?|s*5E6&U'D+.w
gl&*7EX7N@IE[#WCmgvuIKbN;M#s>BKWcsy;+y:w+-'9BF~5jR&UQd)Q<.#JJ%)IQ'(W_%oZDE7GqxoT4ClS2KN@sAwAEM$<YvO
PfC$_9>a2c!Y_t[po8X8k77nV:023C[*=j3;g0P,'n0F3Y~Mrv#(+C8>^c?GE2PqK-lX(_36N%BX9.;Q#i2|,m4a|E^200j'$zf
0I|6ksNi^$['3<X@Of7h>eESWFyn3(VU9)mSVSlaPS]CxijJSrbwg.z1*qi.BQjsKKF2'>*$-)*Q<)Kaj=(1KY.BqQ-f;(<]7|Z
Vu8M_$+M_4DYNd[E]U3^!EovzxL'ahLCV0Gx^6@FIYk+A4og:XEa%~?udBh$G@jSwbF>J%VEtg4Em?*Lz$wRqWpqHLb@#dM%a.O
8ZOFZ6-KDJsO^-HbJpLnwmmf'+)EFxL^]&t;;[N@m=l!Tmt]:h'6]^M&W&$Z3XMHsk=&k5;(Qz5y:lrNT0,E1Y*m|Y(R,Mb'8gv
c+MKJ_zsJlzNY2m9#AsaWaV*HgA$slTEokMj4w-]7kKiP$JR~[FL6UDBbjM&?gr6CygcUL0y'2?<S~eL?7t_-j~O?&S!>'nF.;c
VV4[a?3,bjbTp2|T@aCHW?KZal)$R9<V:)i0KLBu=_4&^97AWRKTf#sHaJ^0voRup?KwT1O@Hy%~OR4nxWWb=ZH@rW:,5H6O#_*
;cj7nr+2_n+N)*rOojCMmI^lOji6ateb92d,v6#=dKgQ#cmTep[1Qb)[y[r)5^eq.'fwyOsyQDoW0QSIcO^[GutO+W:rUJk(p[H
e!rL5xvH9q^c.|_?Zr'r[#%T'Kgg4jXGjLG=?Ur)mL:^7^o2gH#3?1>B(e>&>Z_:N^(;rj7#eczW^.~uK,P6:OpREnwFRTkWZ'Q
y>>dog1Y%R;?s3YSp-lZzDrp_@<xO@rS^WyoyNH|yadGwF#TS-3!En>N;LGrZ.Wx'g$>BA)3>!Gfw3xVto>ULb,|imO2PPv:nWu
n34JP]X($*Hmz;Y0pmJCcC++36=TDy$r*oWjHOxyfQs29Hi#>x>0=|GYgN#Gz,i<$4B.8BUdk.@0R!=lI.t^+!Oco',l_:ZySZY
k,A&R|l*#'M6lK#B#kH]J-wX[7B!uafn9EvIAQ0vy<U=C%k-IB4yB:^;^jG[..%U[|lB<qkh3>N+XHT!V8&pEU<ZlM~Ykce]xu[
CRU?ehwSgQ@fs<i@#1q#|$8F6#z>~V~Q*?1I37|KxrlhGOZpY%Z=SDO)iq;S>,6C$%S4x)6WZDwY6Oa>&6gdZzn|<fK>927nLhE
KAshZ+wJ>>?a]&GRZSmb2)!F7'dX43r<q19oNa?9oAI#h&A!rUuz%<,BoQu3xkYcS=@?]dHFwJVRy7z9qLr2JLm!Qx0R)_Ffd&;
~:gFJ(,Pc~y<3ndq$KGmvKiyO6IXGs(m:XL,v7g6Ogd5cE2jg[(&MH~.ONO$<F<1YZ49SxN[qRL(7]OR9No8'58xKX<Ole=5%Vv
p]rf1*xF[zLkVvzla2)jyh*')+3WR)P*$O4QXJ|ReUPrGllbeUSzpiUxF^HA-]#HI?_D0&&7R6b^W+K-+gnP8;i4:Q|7o)dTk]*
N~S-RAE>(NUMkFd^OJH3(DEs8aO2!)GnMhyXuAu&SqCMSa%BNz9'?90jRqF19|6^!#*FQ0rdv!l.Ax,]r#A@iCm,L5dQI|L];2q
Q+uJR=(h@+F-!ef7Y#)K8AZ+3)=D[MXQF)~<9pvvEP3fXF-ey|~ZNjY_n&O(kw@aoUI_7CjHf&;En)9bW&^uAZEw)KX!*HkJT_-
hh'WPX#CU)SY7w!vqFLhaB_^y'&z7lvgKXP-Ml;&eEN^_4j2.Vzv?xW;E2;1J*,%+8kt@x#U%VZmK6A.uSBmj)5>Bcl!em%Vv:n
]noA7l(2[!^5R:U2cc6~ZR>8'IZ.E>D'znh%v$~q3%M!Mry>KCM2@Wa|Lnadi=$7Hsa1QwkI)iQDrv#<YAX.>:]$rMR]Ks&,!S0
tHtF:GnI_M<q^%UyKKLJh#[%V4V4tGE08^jpDf|jrueDNIhk=(>;B3pEio1G$$3-5kW@<'[^V~d?rk_qqWu4LeIyU]_.qe^,&]O
-rADxYCdTn>4w&AkLYV&|lC^O<9<emR=hl#Y(Kh=R7Z04p3j2TEa^~m.<4u@.+Wog^^8PkPR;S]5E0T4,w*+G)zP1KTU]Yysp,:
Bln^~+NkpW7Sa%rS8PKQT0<_WK'15jmOvm1,T[BB!I#w-=e6G;6rzT:_ADAZmGw)xL<FRYkrvZvmGNG#HK]f]FL^NG%Mgqdi)|)
:(%r~gBEG3]$mJ3JQe'(Y0HlIXX|3H7?LAAC>(WYVr|ekQaF*<~3e6&R9itchzEJ[Z~5''!uq?e>XwscpVT!eE[3ks++.th?~ey
m<sZ#-*gX|)%'dzK@K|,cBNcLoIX.;tJ0JmM.aka:hZ3RHyxsIy5Flm*5-uf0>(gsZ'C,bgTVM0^k'a=HouLIXi?5NFOnI-hR^U
NJHgSE?(se=i:@t=M~>#o~c'uSqnS%PX;)~h]C7UP'f:6unQ[Nq,@o.8HLe5iEs1L]?FuidhDo<3g%5D7fu0wiB1acyYE8dvRlV
RlrZ25n^-2Y2$<#yk'%|~87;B-dR+U|CO$#.F8%W-z1BF~u7)O>?AO_Ip(5[w?OG[+#0dVS[f#5.vu&.#^Yx.&BEp&He-'4x*AC
~KGd$5dB8):vDn_s=mByY<fD)bS),mvvAXh#Dp?[7s7|k#:Y8VMwU+B@VL;_q]HVOF_Jx*@KH_hn4ba(M;)w@kPs|@Gq)nHYat0
D]eSnAj,w'7v@g-^G|]iI?^?;S#vNYzV>1u2T]]%4Ko9L7C!gT|kv*=SXCqIDN3-aLx_7__P94;zU?yZdhI^n_lGm__Xe.S@d=S
=G3XEukz*wFc;;x=$Sw)D,]bKfB8j-dA)|kN67?V:Z)-5;q9WX^ac@<WK'TKVvrC8Lf&52T7(Y.g*ULNJQgl#FP,YOOpC,$r+KM
cH~GlSOIQKaf6*n=pD(G-0l&edCC!'9|O=W-&aAQ?ir>|kr]E>7mLx3IlDJ,1)+am#Cc[MZ@v.&[.NF%ihQ1Bf5%tez(uAckwG#
tK53x=PQy;6zEv,G7t+3Er[whM6$C;-2[y&H,pir48~wG%jC5Tp<re%ga>1x4v34LQPs>iVG,SZb_'u]!*2p($hupap2P%Dh#t4
A^$!@O+l?-H1r_&3ZSJ=$0^MOu*(!jz'xw+84'NBay&Qc1K[jnZXhT5#?^!S1=7%%b]@@.DD[Ssd0N&>I:!Y'2WkVQ.d)[+_m[%
Mwij?I^DxfBVa#Y8lHidqx^gTG&MR|,LHYlSL..qt[5ag5o<W?EKrD5d~O[@[%D);BDds-c~osNPn?fcy:;z7N;FTXmLdLxtXpy
spJb3OwW4Hz,'&57[6G.nq@iFC,sm$Z>o+[Y6-,X_nPikGq+eG-[]c1CUtY6G5#6-TmdB0T4c-?pg?Owk4cB>Wl[b;&'6#;,cgh
>-m90WKW5wsvE*Y>a&MEV6R:h^zP,C)6.0%=tzSPqxLg#O^31:A&9p#U$8~kKW9=syvV)!vN1S%Li<bX>Z-HZ=(f[59?kf%un[>
N!,KL$GSM=ZboE-Xqq<T5W%_5=oc|M-Ud.;8GY^xOJ+uUS(*Q~2x$uLwG5tr6QQgb*TL=0aDZ3cr4]pJoJA4u,Z>_hK0b9f2C22
67<f7s_kw|zm6jgC[z,eF>U1SKoeYl_Qkn*o9100vJ5BGe43>.4Rf3lvsok-WUVJsY(WArU4?h$-E!tX0&zzyoxML-Ux^uWT4gK
SsQD1z#2h^WE4@,swYerMDhD$7GdwFNl~%N.4smV_+m@'lj,.)d8;3@~5s2Az=9>6D?yeq4B:5$.Y'u1q+&:o:RUfcBFVqCD2V>
xtu%xK#i..Uk4QEOrIUN5nJu:W6ec+$UzdnFI8bMThqk[pp94pi;.n|Q[kd^?cp3-%tW;2$g=GI[Q&,f.8_[vK#%$gw-7*_G3me
kv:s'iVve6hd|~Zm]1+kW[4nnHbe#:&dE(jI,j7@m(1MVvKGX(q#3[#q|@GxDkG[.Hf|LpILlu*@D,D+[)QGdC?SW3XwSaRK7Z=
8ME~$<Lu.n*YZX9osxh46=,Nn05+&S(FaZr;n3XP#gNF:nKx!@|l%D'.l;wqb55y[C7-Z4fC|f<SMy*S8^nK]UFr'_F=T]VflD@
Mw=x*_>apmvE?&j_HWz$e4bM5V6dwq9ATsWV#yAW#!z'^$a=',Dv1i2oCC+[$AUIoobYZ8xfUR=;GE?^p<AAcMA4R.j<O)Dw01.
mz4iSW5XVonjBW5JYV?3|MPc|v5UWKB^Y',GP2:uJ7<H6,XZzIM?q?N|'wrn(Dsm$EJY&dst&,=7?^RhqFD&v.B7QJsw=PVfoyM
[tlZ<OhjPZ,9_3v(WQ>*bXdpC703>~~C.-C$]xHhpk,N,]z,@GMWE@Gi_s_GAnJ5K?zZdA,&A+O:<;B>E@Xy1p-2g,BLLTD1AD(
a-ThObwN6%S,(HT.5H^wgCXVhI9<aU2au^%Dyrn,ZTr,xNEh@NiwfLPcJES16|V^;;z3|1sDnn_Rja?2%pn[j;_L_(AjXW'aUg<
$KXly$&^NT#FCVOG<ZQk'o@'4&yk1WeB)gYMk1^SbY6qP32Ma3f(nQ&>95yOzn'?tx5d0#DU0audED(CR(J|l7Cb.%z9rsgbr*$
y.WcC+^NFT=H!bN_$kT~@+4j@6]E940M-cw,<2ekSr&Ro2x8cUJrOdKJ3_<PVTJFJi>Gx;?QW&Qt!tXK!!PwK?5E6t'K;khf4!;
_%.%+0[X=Jr6gq6m[<$|w]-1@i#y1miV&SVzSRrzq9@s^|p1buKu*@U^t8]7.bf6NB~283NC+Uu6Lvlj^FW<qtz#zXF?xRv5od-
@.~q6wx:<,);syP4|k8Zw'YG8mto9JXfgh9Ii-2trrHktd%W&1]fd4k$NgstKptJ5D&WEc!8WwVu)'Te%4e5>f[q_S*lwl_NCLL
YNo.>c%A*.v*SSr(NKbcCu'C!IqgHjN<Ds108iQcT]5yvUqzWX)gK9oPT0H@HegJ5Zu,jLiA&sE0x*ogIT[lambFL84eHg;C1|F
ag!bP:=U|~L+>_:;=vIh@nFxkEX8w)-&?qU^5e[Giz-b3-M?fkB'sQ]eTTgj;*_K46e4(Uv*)UV6+d1RX[>|m7P[,S15x&@!<)'
8P+p7SWph4UmeH4pVkb,migxSR<Y*h8J&no_FHUnzFtonUJXkNx|s0>;K:-F*PX%VeQ,]g6fov<~_Gw6xnd_87Rk0ckX&Iz&q4l
9UEb[0uT!WAxUBHtBWvMB<6a1bVT,n7HV$zf'z;(-VV@7]A;9J_#W9]?$>qrnS(Pkkab=M|$>De4'KtxgoNDcGX$z6rRoNeT!Um
nA2zM&B~E.8%8&CP|C&rQp]Q6d8nFKt_3536fNpsz0(Np4pH|%a-fPMRKT&Klovqz,7Q'=(xkg8.&hzt|iseFBc4cKPqhmGhTs6
lVo%kl90l6]i5MLP75BP|D4pIW;beV(^psAq8d>ALXI5rhD0_Q&KtPK:r+xs([_<ZpmjCO&l@V:sVR.1UA1x+hZ<R=1C^rjSEMu
c;RH2<z]='#UIzv+]^KB@-?Ax9W.>m^x7WBF|MD]KtSKBTaw16=JAmDCgGjM7g7b#;.@N?>%I$).m4m35;7!cW!jBB>CR%fWWj9
qOXBV|!Tp@(x=Mu(nsI-JiRtD*[E2C@<Cz9x+6=*d4mC=&if5v&XlS&s48dr62$GOsh*YI,E-h(:&iI1[ee%YJT|5<BWYce5ChS
!Pc-DVCt-Q,<CICUV@:+)y@X2!ky)z$wu;tLg!Si>7.!|~?.=oO~RyQ]W.Yfmr0X+2R!l,MM#MV)g)I=;t^5ZAJgUt+s61hM@(2
L<=ouEBF-^|banEEKe.QU3jRh+UdJNw0cIcqnMa;kXlAXw'R1xv])u#-Ay6LaAPzbF=zYOl~FCY8RzHs~Obt3j$u<j$GGeVex(.
~5'ypz^igtt0ET3;b88+?0pzm[;U,i%nw?7Iy[fTc&f(!|YNRnMuz8NqX56&h6<b2fSlN+pCH<n<Fod*,ImD$I;lFq3R<)m-uZ[
xSqTYC@Cx'M-2_^(t)f!8J2qjMuhK7,ZDh<OjP;+[Poxq|*?$&:;DZ=pu[bJDip=rDY:?kCzfh6AuD#kFTBE0*ciwiYNp7v5ss.
[rmn&r6>m,C^bJ%Kgk#vNvd7SS,zp6vIYM6?f(1n@59Y[o.bxtef&(SM6h[Fi#$'f&]-4XOgeqWyzog'k(teAmEaOykd_8aaw:P
3^mXukgWw^y3X(,eqRk(^0$Yw'<b9bFE[Q1fWSg99UW@.IP,|WAxKCI4Vwmcez8=f~%)uEScdyBD^#oEB=!#E:YuRl'nGFK$RHa
9BI,xj|OAx^6UI[AOs8-Nz3m#|PTMC56rDy24YKo8A5;GoU_?:W;eoDZ7rubf;nbBS7S]Er^>Y+f@[sYkZg!MDtQSl<As&'ep3T
tlsJ54&_KdI6,WSs7E1AkE%-bMRR&Y2i1B)gE%S89sSDWAL:_?e~F8J[EV%~D[(H9d4ci0Ar_e.+~d&mGJjPktxXt=T3D$R-|pr
dQPfauXS##].fav4#IL#Q.:zap&?%o<bg.'V(NC~3<[W>r<Bv)T>-tH*KYXR4Q.Az2:xs9B*,;ocO:4r(66*qBPP#h9pZvU6s)>
I.u)82$??1rQ;5u)@5E6^IW2y+9~=igLSgL|seQ@i_a?>=*G5uOf-:ft$!qS01fwONe<J:2y2z.C^fd|w$v83'RY~U4hI%fKDO-
-ml^*Z~&,;;^'UT.2N!UF5^_EmCe0v(z(U)S#KV4,2;0qA>FjLQ39dpm%xpg-U<N=QerEYZ[*.eFUx'x9PfL^^v.$awuO>j]q0x
1.^hF]de$9fqLPmK<Xg+Bk;ftqG|nGx7]RBR-XW|Gik5uNd;|VcSUGW4rI&BE^^6fc-RyB+mA*)s]B(_)P9EWdkWhHXGF+)hgAT
X;HRg#BJHCy$JF.ss2UJu6Z[k7X[w)M|bm6tR9Et860k.qI>N$'?My1!3H?iVPk9A,y|iD$t61*phJL0=5YJYIG)I8#0+AH~-b*
I66owTo'R2]H]g,Z@@h|acnAqa7SIhvSq'9(X-kXMUCXxEs@UwWFJ$s779P5=Vu0bG*K>'@qZ60Z#wojlxTdqTu+,5'fQQ-ex-L
6llyxgN161tfhy9>hxU=E?<KfDl!s]NdA2V7Ye#UOXum<Mc!|NjCbN7.-xRHGfhZAoH*7NMfy:O<j4;G=|8C3y[,KE,j>m5bA]X
8mi;eS*Y~|%q6$Byj-'1Hy1Z1!C!~<VUXY(;4q%p<4YL_+,aHie-xb]zVvJ8sgad@Op)qkU,t)K11z(Vg4'o^_QPRFf96710F2!
,I8d!13e'(Ik&Kp.R|#@BXQgjW_~>XMmfOfZhlrVO|8]X$;z:+;Wm9W>9!|W@N#2(eTZ=Vl@Rmx%;.55>$_U)l_yzUAV6paY-_4
?*ViV.%0IQZYnT9jU~4%FtNRIeR+U$00~!<x_Bv0dIa=C#k2zQ6sr:Cw*^*0=tly7^U]33A*>Q+*I^2oXDBt33;0W%GUN|r?^g8
RZoB7BhrNF61t#EImjpFj66A66;C#pDX1.[#[4_S.U[)5-J%v'~Pb,6*GcASgUW$CS26C7=OpM9j~=S[aAvN[PXN4Bvp$qKd.@|
hepOyO-Kc-5Wp~nn&VXG<oj1NupYiKU)dcX3-:jRYPx#29i|tDF:.s,MdSMs&$sW;4=a9_Lw#d[zK_%^<XqNF&cl~2*Rl~ouq&1
X2y4U.Ym_hnCS!(qgcOv+6'Jm9O]<7tpgy;s88(mZ#QFnx$2s;#JM??Igo,7Uizx.hU7lFOmMzl,!0bHI4#BSTZj8:o'u)hCDc6
Pqc<h;Ze|mX]K&'+1MqcL2Hk>6vRg_kO2)Xx,Q=W(=z1%aadEGJRw>UM2i21'&K5%f=+!udh&eW24E&h|cA~+7oC_F)Sc0[%QCl
:8%WYQE[nZbR@Kk5E~RZMI5=8Np#_$)Ul-l18W)FirJZz2cr,+34T>Yb4_H2E0]+x9S5>zthg(F'Y2U0ECa6PnJ6)K6LfK^^&pg
^dsjwR%5x[Md]cPJitL170$bKO+byuDw8wjJBvXD30rSINY>hPF:a^@PF-~8xLa=7_wy%K7uAxcW>*U&V>tJ1j#^3Mdc'$#vO:E
2sNFOXkr-ht_<zLI^ZgU-IUOY5fwgA'~Vo;jryeZR%Mlp$lUS:Hp:212CX]EsUve~$+:RCU'[m8~|I)Dx.Gv9GuGm#k(Fnw_!Lo
[T#B9C3*]ASMMA9>vQ~:I#*rA)Df&-lPPT6>W9[@-'M0wgF0E]UxYXi;DY|G22eToho~P^I*>P5%etn7D+*,BP-@Q0vVkfk>t(U
v$*^|bNGRFB>Es~ni^up~8|?!r^ydrBs)iU?xeH]c.kY22&+LJ%E8uQoQ9PJl'AgXwmXQ68T_39mR1:E#-PmNOQyRd(PI~5U%X>
vf]&wAgh.FHUVg:K9j~eOqzH%E&=b9|p+D^R+5RKviJ*$|s5tk-$eD7:+zy(UibG.6t^#s#u(RD%hZ,n%Fn#PbAoI+dK4$Zn#(+
a2qU0[q@EPvQ_.OBv;eYU6GU&65?O+PbGd[.itMns3s9%^03i1hL9Fne30-x1lpm_^QdVxLc&|%!NWeqs'bfeH#vLn?nCpcr#&1
DI5;Ggj0N9=;QS,SM^)yn0)i>>OuGSOE]dIY*Dx2%[k[+18>1%!9SWv_.xdoPq)mp]@41BXZ,4,v:[w,<>WtP]6!O1(_9nrf9KP
m:qlWSO*L^f|duAq>da.'?'+Z'fG%..Fa_vYFd[UW7Pw8ulzxH!?!,Cf3r(*GyH1y+-QSb1wH[z7*0z|VFc<GZ5k!vWZW@$uEkn
D[-3rGgjX!(V$hr2C]>GfV!nFMY0B:br:P$9rXj;):WdeC-%nR4;~g>^H^!xx$2B+mfF00Vra*s:i|vT&eBL5?+~ett:$pkuo@;
Gv>3&6HCeEr4xe,GGkZ8rPPOhI=t^A+[JkmwPhwIPgNO|l:lsa9%PN~.IXWiy8I0r=VkuV9|2=bAW;13_g:y=aDqupmL>lw$c)9
Ary;EJOTaWkl?.2)[g3=fuK4U*b0tAzoRq]zYblO-jEOR)]EA*@v[*aDU#U6cpip>9G+_<PtDIvf-6cHuxc[W7t<ZC,7vf|2d>y
OS_1vrqf>*8VzHibkiohd'|y|)xThB<CD8|(N1,z:8|;o?&QG#$zNd.KM~5Qq[us|-1ITdl*WS^=Ds<;I3gW!!fYvXgJp0S!MJ?
yv;q6cf4Odu<pNb+erPm~DO,C[7%0tNsaja(CpMju$.l[bnfundj1X'D9<Qd='Eu|i@;,=<vsCMoUlYKc$aC=@nEG.<Xhc=M#6!
l'-%)3YA5gPmO.4x)xzr#GhL*-sDy@m$ruRXV[1>rId*eB9Vs2YuwIGoNI^=dgT-0N*?dqi1Qq#RPooJrSLJ(X5ZmbP9&(UEZ2v
_w4aX~:G=F)Qe<#,%O#t^1&?E2~[[6;N@6R6Nz#j|dXZz_4f&>+ZTG4<-!kXx<b'T6D6a:[I2,^;$;D@eIYNWLj)A(1ilb3J8th
.(hhIFJOUL|m:(4sZE^Z^QTm'bCM|)WV5:*wsShzc8F@_($3Tx7S#V~K#zIcc#<E|tD|g0RTpw+W|bo9&~'cJd@PhD7!jiQ$*Cd
_KCioscIvOlbKL.N,Km~+n;iJ?vQ;NsWRD+MRg-(^k1DkioSyqb4][I8!PkR;ZS2_|qT]yC87Q+sldVh)YR2:zH599TIP'<&EJf
u*A_jzLUay0:A]<Ho>w9+p$q45Zr5SyaQe@4dbpl35(0tYYp]2X5mF&$Tm-=Na#'x#sfD!<Td:-w>'#aqn(ySLL.8n632D,:az^
3XVEIAN^=vS6Heofo9&GEbUHBJ^y+>]0c%='HINI=Cg%53MS!)51vq3]yg&qD.%*m,~r5c|nRbFXVuXYju'ZV<3'CqJH]j%D=^M
4TTeMu<,HAO^!jy3m+jLu9ovtyIe:f>u+fCg:fIO*]F[5QsGent%QLf=*n$(ny#z=SgtQ=09NXGmc%b.dTy'B1=Lmej7_$N5!jx
O!1KeNW0n.f>K6G$l~2JxvM@_b1JyEkh@lQf.GZ^_q_H_)h0XbSj0$hNMlwTNPawC6~wJl$%.p>Mi*!m!jHw:!0nZQ|O1iI41UE
)vGM;47M6cj=)dMx6Y9oZx]_?(9SwV~7h;-L'i[XMHmX!H~-Sob?0ug6pxbXwUg:u)B2X6cCtl8*aPPu7?l',1?Yw~D~*raP$b%
ZBPu*uW~AoM$,~F+(c'x]Tu0&U[T-=ohdPqW=1|wXB6%.qXgZ(?x0UBMzX^>m2&+_xP~:GP=:^PlHT>p?q?be6iFdd,XKl;]lh6
T<o'TOK^2F~QqZ,|]YqFFi_z)9p<lF=F%d4u?70ok,ZxrFrbw8#LQ)g4JhfYu3cv$p]OAuSZY;%@p$%rF^@|$yG|;u9s6#fUnN_
;(sS@(e|&EqASYji.2|Hb71nF^uSnl^y4+#E!>*45rr=[|?E@~Dk1b]p?(hJ48KHk@9:cW2gBKlW?L=ZzV<lG*IH<YNW]y;cH,6
eg|VuFxl#sv'8I[sA(tV%SxL0ZA_j':ZC9?>]$oU>Kg8.6U*e~^j^S5Loi7;,KanG1js~gcIgy<r=QQy)%N<b@:$zS;1<v~G*_L
gO>HAeTHpG)6QmBZ<uwJmV7-C2V3'NF|^.-+s5<Q8t>?g$$EC3YGwTGg*vd@YwAD|Zp@0<'u8KUc;EE1L?Au8@tuVO-IXE>63z~
;Q2flTVL>4t:Q;<iF$WdwpZUmih;8%[o>mn7bJzPRv%77[L+YfdD-,&T|E!FTC#*|hj9&@oL_LnF|ehePLxlKA@?TyPt'9JeE!1
PobKiwa0F#a#Vq?;0@Mmcex-=$ANv@_gg#$ExMCNPbB=#ypN469K1#tLPQvAfr%E!&^!uq&MZ9^SqO(Meh0AjNL.Rkz!aI:L1a]
T+fW!1Q)Z_O0LTp72so%Q>[[M9ix~6e)HgGy.&e@=)BRoMjnbKOZEa^meL7>hs|$88AZ*ysp]@f.=95s3.a*YdC']x$VYqJC%G!
6fI@$qU)+i=$?p_r3L9s8rKIV;:(Vpk$V@#:9P@u#>W99UaR[F+Cx;sB9P$Lwrh,LYSYAr2LJ>+_Tu=_EL?6Hcd'6pEuqt$N.76
$q)Ke?vG|..1u~sw7ERo:U>'s^G*IW!!m&L2e2U_+_;yy:'A0.W4A3+^+v0=dW.El98O+Ok(4BKRav&YpY(tO'[thij<FI8ES*?
AyLRa6p6GS:x?1]OSB9(qW>X~;lfNJedI?'w'JO;qRoDvj%NQX3MIQ>Eb89~+r12[Zh!jdSo~$A276G&q]>8HfR.[J0DOqhz?~E
B%wF?uqr_$&Vg5AxT&1?hGs~sAV7Xcj5~sUn8641O%:eAvVeNl!g+x1VYPbrUdyfi;0eDNH]+L9CSi5~VfMh7wKd1F<eyd1=adB
sB,lqa^@p<ayip5k'i[oBgL4lPGNCCk]QI#liM#TezcCN^7-:<jjVZy_>&'PJ$-wedBC;GV#V$v6FDJih]viOPsi)Kz.A^=QIxH
r)|%>549'yFSDMCTM)^k,+o(3y:Z,q~q@SEs~B*0^9[dl|)27hNmVLF+EXuxk=sty8[2S0^%I#=>=w=!6uz)P,OUMhgEU$>erC3
vGsR5[9gA&!I-~rV%42dcg7#qJ?GPaW9IQZ@JUvSX*-AM,^DpHdyc-U3MkFPy@U_eSaOmEwQbRU5&s]zpM1Z[jMXH<lo+5s=pM(
?P!K_Tz*Giic.vbHNw?]aR=vM85P_7e<2vl@,?;(Z(e:('_2Cd1R5spaHas.kCM.XUJ93U4b*13::eddCJ0Vgv|fGX!j^f@5xO!
Fn>?fK5'lMH9Py1wMp<LhiF'1-<N*V@UCg5@+@ku?FstJ2A;><N6Tc+:=Z7w4a4.DpWSWvFK$1HpPMr+JdlX@SQa3.zlBZ?5?)P
x!r=vL5~L]ff@GQF5C#$+evRlElE!R]1]~UkFc_<vls@FFu=s+y1pHw~Be-9__mvF8MUpeTS2K.wHR%_#qR'.vgW;6KhrG3Bpp3
#s;(IOF<-j$rk?J:ZBQS5pPY,^geC:jz5GD=F,%1Uk;#^]wyZuKQXK67%:QllPC+^?nWQJ8bH@>D'8SbXGYQ,=L3CNJ~L,Ww&d*
un[h1'8~H3JL0mSFv>wC]:KMt9u(_[Gjn<'&^k2FeQCCHWZm2eVCERwxaWO;xEvIbQ((*2~0:U_SoWS=FY*8(sC7A:eIK>mOsb'
geUorU%^4x@OLYS.*HB*0r'|G<5],OEQQt9Sg!|=?OzWz]!Q-:[AX8;rFrf$nWrJJRmscs6m@&#rBPWCe*8b;[aDkIb(km~J034
d|<w$*md*?#hn=$m+Rh3O|25&ZCi1;sI*?D]4)V:E-=T@@z-L;Yf?E(>Bxnf6SV-va_Q&w[UJw~QsQmkaA42r]$!GRjYHtGznh:
s<~C2wg+uag4G^tVB$K%(+g6K1Ft5g$C*W,xh>_oe#bke3#1te%XvK:yth:d;q3Mk'&,b!ixuR+pR&JjS&ugnfe>LG2cnY;Zll:
^wEL::0SIW2,mI=MpSaMRN)>Mm#C[5c1nMhf1$uY#E%,)#|3_rH0Rd@$J_P[uv>oL*,xUf,idkRq-9X$%;z#N1)8^sz56sgb7U)
*Z:#y%5v4~WBm^>CQPazCLfJBgS6zQ%k*Q=tXgJso&V-FDpl.cX~)*c;J6i&65t~>UR>U,AF>'gF~$GVhJUo>4%HijvlczY9HX%
;AW9B9iEOj.hDiH8s7MB9A9'DP9f)c^dG8:~NKNAe+YujEAb;)@LWfA'E(<^<vT|E,Uey5UE]Le5kL_wH&Oeuxa0g4hzfWfYe~$
Kq!ff|#Ns^nc$570i%;d,nBfV,s31aI@2Qn)5B?g3gz>k&Cal0^S+unw5psPZVzCf15%!2evl[m8bh,@W-iMTn~XlXEC_?Ny^OP
AY@:ifb+wF::!46wL.Ksb($<d9hhk<H9^tN1o0t:N>H%f~+%v||K(Dy00y@8'B.ONE<klLN.[[qjJ[GOw^?<6.gtJmpNIlQE7v1
Y^2pPRU[OY2#:)%WJC>m]%BE_(&!|~jl-wA|>Hbj;JLYa^jXuby)0=T<ibD(uL.9Byf2GV>zR%Q4<@ah*>!3((J82FG1s]u.TFw
skp^amk(?EDI>*v;(;'Lm+*'ys+eP!CwppcmdYn6ewS2CYSDblE_Ez<=ZLGBTNhoQ9WUhCo@TiV6+C>Nx3?inAn&gs;xp&5#B&B
MC_9k3[eOW7H]*|9goR(AW)H&!1Qy|!#28NjA)>0M<g91,LN8l4:~*KU!VDZ3Rs6byFo[^GJt(3P,&;CT-#yPlQXi?Lcpv)Y130
Q?E)x&xUFNQHl'ommOxr0x)hpt+)mdG+0gpVxm),hoxF4A,w(oVDf2d=~Whr[#Bu=qxS8zm~hs2N(^d:IkO@PGXV)Og~*CQ~BUG
,$v>bR*SPC=P;1[:RbB]sM8hs.M7i-V5OX^^?0QRDXxVFP&QQaql#)~KFhu7(%:pnGYfw8gr?>=9Og2&Es|T0Sm6g30geaN:6Sa
*gKyH&l7h?[P3;iV9Lil(Q5HFEDEbb[uJ@-H)pm':M<al=SZYU~khAq%0;EKe&NO8UtU(_C!nf>Q+gAlXlP*<cr0Ngh?MCM,kHG
PJ?9=gH>|hLEY[,GJ+:HKHLM(:7iz5Za%(<?mIvtQ#*G~T';$~NfTZQ<8Q8v]xCLD?xpt%6eXZ<7RX.#0ijnP*!;q,<T#[xO+aQ
9-=o_<NbtE1Bi+dhU,9xaCXovrRRHCAVY;DJ^MzU4CXE6hb7ML?>Hlbc,eF>]HCst_!rl*G6oY-3cPsWh8-TR$J5<oSSg6m&cMz
Jk8~J89VOg^;Qv,0!67L[,GK~f:!$d=JLJGf8sF-hN;;s1nXPU]uTx0PF_@aAsDUR7(nQKnDsm6XI=th6wrsxEob~t0mPo^Npw(
E0jz@,.wKR+mQDl9aNp3SRiIHJucZK52a%sUlY.d]e5RL7;nJBb]d:P3O5Rn6%!g^VgCV5shoaz)Gz@O;o>a<b6tV7v|rix58*O
_(L(XV]oSMtF*kq3rSFVoiKEV-;)r@cs4:CmcXl2z<@pZYAPTtjMCh]BYZZ$4rhGQP%@q1,^SFW@SDJmu1v@(rw&|GNfo[LZjrP
h1SmdsSv)?Ox)JN>#<pv.N)DyN8zq&6&W+qH,rLz$KWLQcWlGCIJi=c4#WD.g$m~.2(d9kj7h!q5@eeWL|q_f5s]gV_lTKVe6T@
awukDCEK_g[%V@NH4$o<InQ.ll;pW_,S=aeZEODz>7,HC6fz~ff^RdNaepA1mfER)&+A0$]8OlZJRApJ[Dq%RfZBCNEidQm:=2)
bTL+yR6$Vj2=bT2vBD!=mt&.U<Zb$f*m[ffy]RK<yl0E&ySvf1BuvU~B.pF+*%e,,s7V~*[qqwR~SA3|Y@+pzKIW6O_H'ARPd~<
sH_=2qkp'3WCI_iS0>q<U$0+oxbLVOl>Oi_meh#:E,RI,!o)ZNHC73QAwp]0[_^9twz:?%5&WN~v+(FQMSYnlWc3@0B9lI;-CGC
;6IfyIvMDrG+VfQBq+:Gu:4!i-[o:!7bNg#J,meM*:NCl=N,@cyz]#wU:(LlxD&xb[zadPuuW;5YO+[T,M6Iq:j=?]VgqZ*VG_u
bpbAR3G-|tt0)%8^]jn2h,Y*;J|R,6,8E)k40lN*AyxpCo##?8TALSmQh+UH.+#mrIO#Pbz9[NQYeZn5T;#qb)s%VT>7yaeM.o'
v<:tjz%q@g?,yL(Y'As]VGCU<=iYnP1AGKU><HJyFOUMtq#XY21|vMFJ!q1xPObq_,koc*B.k$5v0|xqmX!8sYCg_=O1hCTS<'d
Cbnj>|A)B@c1VuZ?nnq.z+-])D,&(,g6LpM:sjP0jXSh|[TbIu6IY>z#ps>j5hbj672ZEt|AnOOoxMf0g>7aBPvSF7#lxN:qzsc
IyoETWGqQw(UJtDqYk9DTlDi-|_q4+^gDN0'u8KBdaHcekD6D%OV(bW+&2$aD>#NKtv6zr[H[UeJEx*F]!R=|clX_'R,I,Px,K)
R%zus4UsacD@#Y>(McuH=suh3-IMAW63N(e7HxVg>JP>>P<?icd@-qYAO~sn>[cv9aVoj!3XG.kIzbAcn=%,U6TI;#FL@Siqe>L
gr1gF7Pt>Dtg(pd[m#mK-haWcce@G?!+_IYXmK!Qi4k'+)q)Fy&F0OaHU9Kr.lBV:V7'l)hL=>AT]@Xu,Gm=5OwDE=>Lhr-vIdJ
?6eliB%NKWM%Nvag1=AeESbTI3'bk)AWj(:dstux9&?pJKmc8rehz9Nn@tMw%t]oxKVluukj%<6aOtKg56@OFq^<NHqik|x'->'
T5uwq^<:gLjvKALUn?HD*IyqS[o1'6!kdy>1w9r<y2:[my1if0&Qw<u00Tie?~oa|L^L!zOvp~o&#@_0McPQ8j~^4zON=$ZoVZr
ou2*=$4ooXC1:nAKEVD76K#M)7ZoGD?Av&_KS?3^Qf0klW0yfz%[2@@2MPNHG'V,a;k@:eM,5&J%DN7YofU,)ntx1pgIs3%Vk[Y
b4SX.O3ul:llD~F@Is_m=]&Z&i*<8sT!Y0T&=-(h1q#q068#~VV:x+AULD51qz~Fylb&u!npD)DR|]saCD63HGk9Yy*,-S>p<[H
F|#$DFNhx,Ecr)O-[=][r>U)6_])vTbC8t-sSClivBd9XC![+7)A,9@O?~yFXXw,#:_|M-9pN<gk3;8]7b)Q@nOId<FuVy#%x3y
14Ep+gl'o7Y3?FM(Af3j17_#oitGH6daVoLdENX7iE)'AB'_jmrpz2oE(%$EY468O>Y|Yt@iOeJIdf6zZ;ING=iAZ-S@_wd$F:|
Vp-XI#RjuZGjg,_,vw(QT?.bsiB]=9K]T&Z=b^b?^Q:tQ7.k_@EZZMCrN~j=k+648;,G8zzczyPo[oDPhX8=:pVeP#pyTJ|&he)
7?AGG=jdEk?iCRAo^M:?y^aQ@H%Z0?5m&+<SbXLy,N2eenKTDuW?Wr4,OM>?cQ)S2&CaSkdFxG*kXsI3!aMCg2rt~Q^7&>2yUtT
4vI-a3ZrJ[sFBJj|&nJHPWczW2Nr@Q2>O+rC3jI8h%bf[+_Y&Ms[iJ[+7A8=ws,X.q*|#A)5C<zYzQ1J]:(-u#dOF~GK)VjBhwa
N:!*w7jtjKt_;9tzVaLXHIP5+.yAYrh7pdujB=%4E175Z^~'=Sg'%|~Q3h>aRxc%0S*1%jGYW-?;%my.0JHgWP#:'b&TUCEI.Dm
v?(HZyK68Jh'_3L=Cu5iG1)fI*D+U2F_*!Wf(kRzp#*?c&OSWAR;*&d9M]&RYBPcuTyt>ik1:tGR^;Ir*oe&I![zZ[WefWu6Yf-
R2bD]?.VtQ|(i,2)vZ>94G|2;#)b@#A@(I$f|Zqh5*po8B=%*l1iXf_hrPXroi9B8'CJpmj^O&hcHXqclqgLdE+aC*Xy0C.eUro
Rn,zS[R@k_X*OWQid^7tOMRl#76i(be<=MD_o-5LWU@UXu%@l+zIo*VdsX^6q:AZFRHslCNZUNwVfLp?ekwk;$6-U|Z)pHatU*$
!qg%5Q+i%0]e:4YTUp#NqSDFWwypKJd1yi**8e5KU]Ncxt%qWY%xh:O);bVyjvzjx(_ym)Ctx5x3eMG3DZwMnxt5fF0BZfNw)U6
'2!ob!w&%Y%;Xp(56@xAo_n'okO$4pL@??K%]4a|[s|s?pXrY(vf5xx'b1k5A1>$'=tCEmx7(!(T^T2:[L!KSu*tW9K;Kvm~*ii
UvFhR3u;frf9=DtxLr~DAS~c_Rq@]1^j;a+BlPt&7JyOV<EAX>+]vvQV_xHX+?=Gt-=IxkT:l3u~T=9gEJ?8r,BK&ti+BMQw9h@
7:X?a07-lVg5(FMTi[nwvv=aQA,r!4O1CGuB:s'GlqQeuMQCxI,~f96ldD_O(O<cR?O#&)[=jSqj1d9?(_J~Nc5m:VSqgHaPcnl
qg?RsBzJGuDn-TBg@edv(QB$<Co+W]82:29Shg$f9d@oEdC!zV7Ga:Z'AQ&-Q!A[4m.)#CX5<m7:+25z6bGqIeJR+R(eDQ:Z?S$
MpZ0VNy]-Lt5j0Zm.)!X;byc2onx-3MBoIs]A?OV]x)Xm.~J]EE(Cz$Gzt7J9Iz$X?Ex)upWA]o]_Qw&zco.Vss5p:q.LUt<#:E
0%5<Bs]Xk*P>Q?$jYH~uPE1e%>ekYi1WP-ihmy(Utuy_N0|sqml*LNqLZI>=Xw1zgumMg7z|u&Bwe7)qYmeKJXJrf!BdS>Nq^&i
0QGi[lpg5g_+MvJYL#cP:?40Fbb-Mn~c(SR$,ny?,O2<,$xEe-16VZ3DuJC,|$IK8?CJA+'sU'hQ,IUt>-*#Br;[|EwfeT]6;0,
;:nHFirEN7yLPIm1#ijgos~G?u).ZZ2fcrrzgH=h$RJ.8-IEQxNH#E3TGyZoM*,Wb@RE!w~kV5Z$.%m[zl~degp<UjGFNZPNB?@
5l+*87x@PwW>fh^zm6U$QQH;Y,rwskm#Me,9EZP<CNHO^sC.xv^_Wsic.PKRS9:dHSSXAjNZ[5HT@Y6MNVUWUNq?to-?^|V90GW
3o:vO%XttEuZ7>-r@y'#~NW97!ox5[j6Z_yNhLzX>h5I<YfAs:~(]jMJcF]uq:jx(:y_kjl7:gR2a+-f3qLsWYqfRmEjbX9qz=F
b8Q1;p7G5nupw>u$pSL=')xhu:hXI__C#HiE$(p.IVYi!8'CP=N.YmhH^#^*HQyy<3l(J=$3U?NdHO'o&coam8Lo|<5I+FO?^3w
l*Bt~>Huk^UYn$y8+qh[YXsBZ<~yl9:qnc&<Gnt^xCd)(c5ox-RO>[Kt[1]:J6J-?%u^~A1]szCOQ?#Y*PlE]gqnm9_fEKm(IC7
k'f|9ewMN]gWqeK3hlJb:G@k[dpy-[^<Twn3@uZmK>D1s7-9zA+z;w%1IE+he:NG!U^?Q64xMiMp2@x96|,J]],^9fh=SW:CMNq
r8dN]o|(Lc:yhT&81Gx[?7)f-1ws'B,8EWw$>f:3ITL'|3o0R82HPY)ermuA*eT2fAes~0zm'E)QS^M]a'<??cY-7)+4#DyozZV
i2#vYYC(_LTxyTR_c7l1SHch*u@[|OG)oZP'*bMiy(6Bo8Iv4kwg$K8wZt8L3yw+X-b!nP:P?6gZ.?>dMXbb0[fcRaPonIXS_I=
7P5JRFQJ2CNKhs$77_(pcs@2<=;|e2@Ua*I2)_Im@b$raJkwTRUWj8wC%zz_'Qq_?|:,gLbIu0bV<Gxu46y7jWw)b7e,#7P%D-2
UEcR:W$x_iz.%zem+q2J^qlqFDzso<PnGSpHsfb%l;<5[2Lor.v4,Wm!v0n$xi8H-@uw,t61JO]oEDYoZ9DT;>fyxD~1.Cs37$4
JILdz;(t]jt1aq(y=tO^OjeUAoU1A0Bl-&KQqHJ$$:dmb25VdW@GC1j7a_RM-wVgJqw9,g63aXAp]V6Lq?_td+si(0QoT'enAPr
o#)Hvb6w'yM*#kCH6F74)7fpb(#0cG.v6,M[)yz]'j?T375:#;|)OqA$%R=Bg&R3=SZtgByDmz:8zNDqn5^<]JZMP6).1(-@QJX
E3a~Wf)TH;)Ni3CQC'Afb$nhDMSam)x><VmrKO!p%yHogP>LzV*^)dS4<wPIWK<=Xh=:d10oas(3PQ.atqi,%+R!Z:EJ~7*aVAy
l4WMf2fcAO[FE-7z,ZmK@S_;in!V=(hMbmG|EB-*qac4|x#VALinsoQw5_EFog$$NK_Xg#-p1vLfWggdoyQ1*HcY9>@YjJ^Z3?=
%'h-ifL9L^0kf<1)4JNg0:T][5vZ(Pa]:wsP45^!x69OmQY95oDzO*X4A;yeh~xJc(a1e;@tF^SDl:Bi2CAxFPD|tmR)YI1.O$8
UJq~B!MY92%jKd^ewdKOMk@211$a64iF<O!c,&?alEN?FTj%p?%y:c$d>!,b=jvps!qa%mIA<6_&@zvf>FA41oiw2L~Rf6-zBlq
NJJ)YRxuB&-iylg!B8oY-.s*Y|-:U+>qcjoIzPQ&eP<V$tqh[VcT_ZMHuh9TiIBTdZakQI|QH!%|OC!.,KkRZ7rb)V^FqUO)>NT
EDc]n]N!o.j@bvI&!6|KeoHSALeUbU.MxbRDlZv(6:R]no+DA1-W7Wl&)_Ly~,mu.'CG*))Ys|2Xf<Se|k,#+[RhFh|u<+26.;4
x$TjF9H#sH<u*~o2Cso~hg^sQG+V<FA=n%OqTr6a<iyO)xQ[!7Sd!~Zs>o5P?)1,(g~CHBjVA5QZGhLh!oRr4n.x7S.et'Lbs%X
op4yQ[|nbA3$_VWw@S6).XPWff~'%W*&2ylHGInDF8BweB<N5=[4.RG|!<FE>W_4o73IP*$B0r'-n6BCKNmoq'k?>W-:'VvN%[D
@Thk@xx>^[C$f[h[CwYF$O|fi$#JwjX[EAE]l$#<DIcjVNEY-1&2l[#acII..[bc!>d!alGUNZ=m*@'YLf[,^Kqz1<m<u0#$b>$
8B>H.XjYjWZ-w_i#j@4@Of[]XdrSQeQlBv+I:.>8ft*;O_(>9:yL(b7e*cBgm<ilq'78^J)#oVyJJI.<#PA<rJy-[9?m)lmPD.O
hL&X|-)c%kaIezE)Duok2>7;y,WOR)SfgGW9,5*Aeq)&O0q^cCx~;qTAe,dOX]zvREo'jqPv4Iov#8[i,rUw;iif%75rANyz'US
hue*kJnb3E]sS?H?x-C~=4W;w~$-SEpgGjS,4ZhXsJE#6!5jk95bI|u-g-jfHqfh3EpwkCajA-,*Q_SpY1NpjZxaw^=9zX|&o+H
u9c-<N-(E'F1b;jUNSwtwthGcFPxD&Kk<.Pb2HeVP=eO|6|+2t=sqW.d^]s1E^R~:VE9AS,t-<M9h)m&UKUT?U:kHnkW5+?Vj8Q
h^n<M0CdZ+NbWDm)py$z_*9>qKpU<VBz(p:obGh1hv1)is=|uvPCrbpS-APte$=K6jOFbh*ImJT?A~s(lEHr4ExE<)+q|$f?0bP
v4@_z&LzoO[><0u1~rhb13mCgT4NsEtf-wO+@c~LnW41&-+0c+QZ(!>9sEa,0>K>MBSP>kbv-1i1Hm*V13'q#]Ky!Q][D<ysgaK
R'G>t$,pq!YsM>?ok%F-KGq4UnDuFmId?lQ5UC]hMRVc(~[Ac4,:Xb@(4>$6Y6<RUo='ry)m4)|Q=^7foA-@|^x&25!6xITWlQF
4!_yqRdeI&E2mE(_7U9Dpq7:UbL=WQj1z&Td<Q[5Wqvox]>3qf,o~QL9)@kH*cKG(y!|y$g.6:_x$$pywAlLtmvZaqfiVcw]$6=
6oiKHU(Ne8j8~:v1ts<(FotbfsN(w]I*~lv=&HEf,q7,)^Wg&zyL~;3](t?3G's2gh3!Ed5qE8'$J8ghcWu%o_Z8cIeI4V7Tsj1
WUBNFj.@Oie8%ZO]A.MPRC=%,s^~5q*zL$SmGEY#:jS$Dkx9$%SM)arcP~s&#c8)9vs6fMP=fTjD-skwq@AdVS.A@l|o**V_9n&
f|&*Owyq3+E,aKj#Iz1mI)^!L8B_s<ZvSMwC0'QYRSfZPSf._n_*@'t?DNWX^tp3x=N4Y8D-_LH<QIDbnip6fZ!6*Bf3W@poVl=
7C^%clW9H:xAttv%Jv3752,Ft>|(;0Lb0|9|kzszNUw3btn59'1'G@W3NrIZN?&x@=YXF+$X?C5@a$PZa$S(.%C.9*erS^YgG?D
9>4Jsc])zWAUSuY+d94:?dOWo8TwN2;-SX>TDpHkou>C#g%eR<&036nNQYPI_J[td.F-^0E:P9ur@PvX,'0lj2$=@yTxUPK+7?r
x1i9[$UQ1(l8w+356N5^(Nrjb[^gQ3@JUgXi_C1AZ~P]G0prSL_pA#][9Z=3e~,*xT%%frQ+*]tH@28pT(*9qIA+H-WgACsLl.F
6Dmj8C,NL+HA1oxC0,bVx+4|O,z'J~M^KE>w)(L4|7j2h-;'O8>dvno:&)#@rFEd&r;:g7b5Z#rL$,tW#u4e34+Gn&eBv8X;95%
h.bF!Bn!zN=D3lwb?)+??L9TdH~zq(a_U#;fC-01'I=7~nZl0eH9lKy.O(:!vD+bqIboO6l;fvVSvb*Yy]O?BM6DUf+LQv;:kZX
iKx*<6FZ9Q:vI15=e+c=G9]zM^Ua0DqNYDPq^q'4R]>28VQ]ivS%HwdTR~AGv9H'nxbW_R%;c11Faq.X|R??+Hh>2bb:'K8t[8u
c0%k~:cB@.I5meFdXr~ZM=qVE=A(zy+1Y8G_QIJ5cl&rVL:<3#3z2w9*xO~x>G;gXZj=>947Lq5nc_|rw>EG$wt0MKXepZ!k1m9
3YQg]u_e$0G!uv|$!p@.4mO1v28wn.GWv*P|U]GJ#69=)d8Ycki:cjgDL]Q#-mA-#5m_Dr&NVlgXI79ia&m?RA52s>4fht9jH>x
ee5UeV>S+rK=6M<vf;Bd&s(VQ~=IeI4~W'*:nbht.[en;fM96iCziIG(&SUyN#P~oc-UyhW*QG8G#?s?T#^&KPZc]mRICy)z$KL
^u8!]i:f']9!0*tGY'od8zI0t7ttT[46!:V$.%E-yFjZK<4~%Rk45^2X5xit0^azD>GAzB=2xm8s;|G|Ask!~2+svOhU,MqZ8~Q
e|aIqTor5llDOy@Qx5anbBk?1_!w)<Ky<Ipa+r]*OLR^E0.<N]LRl^:Bq1).Sd1CulqwPZMbbg]#DTFWZfO0VKvjE3&anLhg-OT
j?0)e<p3Uo2ag@0M?)*!55pg*DQ>exby]tHs6ZEUyrB7F5#)s=SIu;gBkfB]E>M(RT))y<2xF_;#8DL2zZ$Zw~zSgkgFGwua!$.
1QH*LKp-#UOOuwlJy@5V8#fwFfg$='y1HC'@KAic$kyY(utH'L?dIwbM097x<]]6!US:uxvwt5ha3?7oo<^op)~hMYfw>3~Gk+e
FxKSUKPm9z8[;F_*]>J_k2;1=M6|X&3XXa=|dDtj;S^dcmnM(D[JdarusR,;;%s]<2~0vC(@8K[SP!U5,.BeWhc_,<2*Z8OE$c~
zbu#oQRwX$^^w,0slshi2_>[n<p&>cLG=~c&A*gJ=Rn|mLI~pp+>%=+-o.|p~$;:+9#t'0yper-Cj.B*XbizPV:Nd5Tt]-D7p@w
<WZhxsP8Dzpl(qXl]T]9DRET(_OE[_cm],^='CfjOh*l,L=^;rFg)i6hk%-&wctVPmwIM2#I:rU&@K%Qxg]P;M7F]@|p[+t-s:u
La;NT|<Fb@lKLtGFJRRxkToUh_Pl*VOq>R'h+E@)-1KEtRm2LS'j)PW(t9_*P(~^#O?Zx$WTHb!mHxo8!S0:QQpJm]#G&=>@Ma-
S?>YJ8XKi[9ouROMA[ap=%wAHMOV<Q>jk!&*zOOoDHbtu9t+Q*F;e?Krb>hT!>IY1Xl*k)j:s1'k?4[q::xdhZy*6('<QOckjX~
)B_Jn.~]mwg42MEO$khQ3RgoOkWaKG]y935YxwagDvsD7_tn-Aw?zK*XHeuf~?|FL&)Tq%x1ItE9=Y_JF,PN.P:xzn-a?q'8:yF
Wz(v&l#II~y~jR_+iEN)z_tYM?N&5~FmaY%GpV0P>mXSJEWp>+=$=94Lj>P)D|v,u9WL~ymz5V?La'zs!2[xKYb|IT|C<h$ZmA2
O7&g0gsyS$T%Q%2)pcXJ+;vH=ydUSr>U<t#h)Mo0.h6a^&k32P$hh^S_%3P$W-5;J:azd[6WVO98d1&u6RU,NWIr#Xa@8#YQa;J
O;|]y7weB[je:L|ZuzdDx=jVX9w$6K$t.Z^UQpMJV>>[kd.!V?7'$$sLLvCLM1wE=PAn^2A:=lv+Mh2WCS~3Zp[ojtzj$!zN>2L
I)#0<h[qj*9-|oXzj5C7vu*_Ae&Ljc&MUq[o+97IWJ'IWIx~44)ih$nY*|A.h)tN;2!97Ty5.f%R8I|&~6KvA<U@(Yr=.bm8Ho!
Q|VI0Wp+WLb|xVyM7)).mD1E:5<c65VrPt+lD!$0@!IvVSM@AA<0YMdGRVYl(-8Z8lw6[AZJAnVM,0MN<H_9&d;94)@|'Fw..SC
r4vqEseFkA6EC0~#M+m:04W@:'s^9P=|*<*$EZ9x1[;e3$b67ai),_5W]q[;_88<K<gv%aB~2vquA^9,D_='l]j[[gcJu:.-v4@
jxzzKZ8+]sem|a*CWymyJX7ddVrfNa&(=C(|#g~i]130!Gkm0d2;4l|FMYn0Ie#d.;D25s#mml-$P&M=p(u%;RiD.3wr1EtfiX)
y~U!Z@&*|Agy#A+IjebL;:t8Ovz#s0Bx1Y*@7C~w'R<?4LJ~?8:[Ysdo8=ni.WU,LzV~WH>N84dkX95Th^W:p$6Vlx3(<)ok,xc
UDH&Gy[bQbZ|$q8F.M,Jwhw[UWuYj49gMl,wWKWud?pMD|^#dyA1:6R;U#7TcoRo8Cv6l[4S(S~9UAasf>z+.t*8gBDK$2sWtvw
yam5IKK,CqSoB5!W($3t]1liZ_n,%u7~!_!#Zs~Uwx10qfX22,tl;=lfHC8K^U|WYA0;UumPOk=vfo$qaZMMllsf>]h9tZUOXwl
qqFQ6ezaU8w%e~STx^t!'5D8M=YWl#Bh*=6GIXjZ?mAeoNw;#YX^[3yTG1lR.DQqf]1b2!ea^f+_9ChF!-?I>RweLaizy9g=8<j
N]mKYX0C&WB:nMAh20a;|4++'Bk!c>tN4Kp(@+O+N9g^MGFb%h~cOkArUeA7M>aRldW~zAClzDEp4>B)Kq.#SFl;eUqh=u&_cGI
dP__jw_SaKPNu0)hegxG(!S@%^'+03Y*^ovT)B34#|BfNIgK;6CDBY)h_!p)EuoOv<)[:hazGuRK;WnMYuMd[gzY^r.@]1HQ*U8
+5I:Jjm03#XdKTvWj@Txjw=*NAbu.ovpP^sP>-*ZkGJ)B'cmj@S+[tZoFptu7,Ia$Be-NKYt_$?WN$KsG^r^dc@$?9kV?D1HicJ
7L.8Dv.VXG%,oR+xv'A..$X4f%5~|DJuHP4!wkiS9ECX8@e3qd#EG.jhOV?xq%qGDlJD+90[5%kB!N8M~('#@3.&zKas-FUnIlq
jSCPU#@W>7j*Wh=0-5ZWfyu6<+E4#7@@aKT;m>Ys7BJ$97)oo;5HV3h+%ZVJ~.kNodeox<(43Z_|SvFJ>Vn*89TR!,rqzQ>d:8p
M;-)(0Y]_QcS3%%^KX8^Z9pKEm4PadtE!iG~](C8z8n@G[,|0F'-3rt;:3TprXPl4?J4DBAG$NTIdrwLqODf^94uU0N4WDox=vF
q-x-TfI#j_dSWS;*:pbb$ZggpdsByk_cYmrD!]D$oRmXNe|%*dUlPJ7]p[%8&]mm;WGhEY8N)pv86'DK))JGLc0QJX4-vnq@=LL
#oUTOA,|oP#73VjUs?9lkmhqD&ZN@.IV2#P.k2t|s:wu$bi@wzjV!t)up24Hk5[DA+E;IGCNs2m'8M!3!7~c(8rfO4Q%:r(y065
b>UQL#)&YaTlDrZG#q(Ji-&nBMPt+8ULCn@Cb:.p?RP@8ypcgdh:E->58CNnjsL8P|&-.fXgWF*@fddHr*h>&xFu!RArAP^<FOs
BLMSOJxZR*zgH$lf$EUvD=VW|r,G+p%ov[3e?QhlB[Jh4@>:2NEWlS?EGkK'@[xT(=w(S+meY5*nZsl6w<OztB*CKtM%j;mG89o
!9S$agT8Izws;wV9~ZN%IMc$bhIfAkG~shpI]*8NrE:8U?Vg;y|@=zu8FBd*K|MiyPAvvdNyPL5vB+AcHk#R#eK;<3L0;J0AwIj
(ioZs;~zO71U?KZ0FgHAx)SBz,9NR&jst(^sq>TX-s,mtZ.&YwIw80ui[oDrCBiOMt|l_|ARSo(sK8&0vd)+f6HYc]9>hpqimZH
qGyI$!@d]ykV;x1Vdl+K2>?K9kdEU<XBc;;u*,T,M'P:~-tJq3-ltZG6U>lhJiN>G[8L4+[@h#yKmCOE].plxA&SB]xx[z$wmSD
rb>?w*9T1+Ec]ROp~dX%S(fY'Jx~C;.d0$%7AR'mX~>1C$=4=9pC(O2tp1X$&]F+j&aTXSd&Y4>_?:^I[nsJbpn6B+uw,UN&q7)
g^aBbTlH|k^X2YgqGb_%G&3!TD8UF@o4$+<~kgBs&as_lmk*>xg?.[5A|OjwL@04Q*g6rq%1|=,5C;l^aD9D#;p5U,v?%K(4g>]
9bJ*r!|4n?.?aQZo#Q&j5Oh]49^2csV*?H&=xZNDJ3Zj2(U,%p,|)bbV4Rm1JdIfZfE]oSDE>MxPl%sGlw?IzAuxUehsgcUNH-,
e>xX<Z(M7;-aoGV-~R1uEnbdNlbwukR;8ps=daUxHZ-5B%>r=$IXGiB<^g2*6kVr(5VTl*>'=e^d'fZBKWguU]@fLc5z.43q_Un
s#))Z+KWN'BZLIw*$cFMyE[L)*3R]:F?Ye61&f5PZE'm+).8-zT*%u+T0#|b&$|@~lf,LDtaWUix@dR~LCZv-37'81XEkGpY2H=
_mjar_pQd?;BdXjaH(k?L)3eb|Y3:-r%PkJVtrTC&gO!6jnveYxh#DC11OMk|.P8|Ax*[,PV42]%H_~[pb#;3Wnn_YVG))8Z:Be
ofRdj(q9Nh&gA[e+kRsUgSf#40tQX;#w~Q,WCTY*[0>sYRPV,Z_07%p4:B>QL(Nr8art+g7JBf+#Hlddw&;g:l1u&LlVxu$rxuF
M[M2;fF_x[1'@<:I)wk8=A&n4o^rEBX,N)xaMEhP>)gr<m^TM]:1+Y(ayRI#sFC%|;=b6>XE8:.z-4o?6s#onif<|H-v$UM+;bU
TR*g@ePzM,Mu^~gukUJr#7mS?iO]ZG<2ET$wz.Jjbyu&iS.j<XRh'~lw-7gQG;%h'G9;?o~(DnKs:RV5EG^7S=|eDLI470ob6pB
L<>cB=snR,ze_9R4acb+7-BSr2]3i4Lc;Os$#328qI7Z_#_o-KP'NvXPy=bo1;n_5n7Sc-_DV.q3EO(Ig*0W;f.Cg8:VR$fAB0^
p'CW-j3[t|w'jc9PTW[j6a_6lH?!K>A8pKA.Fa(TCPo57h61whJ'+@r4komeac.k%s8x?+'Pqg)y;vxmlfT?T5BR(N_Q7n4phk;
C^vKS+4Bs?b@k#s^L1-U*>7uJM~xLvm6d1A:>F9rEs|zuET,0h>HkZ_cQz0tZl1N5r]EyG)GjS24@]G2Zj-,7)Zz[?NL<HPnWy6
dkwqZtj0UGvpV%>]uWUnHIXWQ5MmmD]Ah4Sm^CI71Gjrn'jh1q:o]*SN<A5'!Zh]T=.uSXK'9;z7p#ST|*z+07kY1[NQETmJa~L
$U>Q|C@4s+=*2Lf$^fp2lWWS~NdN_W_xMKi(^;I?x.bwFH&=ivv7MjR1guGVa!:f>UfNO1feAue2'H(Z<oYp_L7Qo&+ktTuM:f=
~2?&t:wQ_Ha1$hvYQ;3zxknP?@+h'm*);QsiXuDAs'?6*sOa%wC'1$]Hasb>pzYrIoUK?>rBLw>0znuO]idLao;b]y@CKwDM>oh
h&O6UpDJp3B?=N>*=R,(pnZ%wz'AS'eKr[wu5u.Q3LNH3|>]UCP056*aPcqm)7d2w#1Ay~T&^Kv]<F[1U<;IocQ,p8iAa$4Mk]y
80GhL%UhS(!ox0M,A>m5XYR+Vj#xPS:tF#me]aD+D?XX&vk?;1j~cxY[I~R<D~WR]FEdo&#7;RsyW'w%|_WWsB#mxt&Eo@cXB_u
#iXbceQvK=4XGK0%V!GVBp]UdW~ZQae;+D.yd&15?U[K?-V<]l+e;ex][J=_8L,B3T?Y8ra,_XB=|ZlM0.e5C(IUuY4h^k5JY<-
oWJf^*[=V%)um3IH.$+?0c&x]L]UBY%bZGdJs#%wE8tsmwP~ra,fRch>9M.dE(U-#%j.[r;!%-^V08R<LeP@<1$oXecA&xA7Bf>
BU#e9:ab7*@nYsTqPdkhB+5I9&#'JE@mMW_X.bnT68d,4.;(0*l$~NITTH^5E[DGqs9hH5]Kt8o:Vf<hmiVdBg_<Y5x1c-<F~4@
v?F7e=Mey0Rw->9-Yq*SK>+.[%^JxIA,2q@1HV(1CDOUa4@8WK7n@cO~6.x;d|7.BLwl'K8'X:wG!<a]o3c+z26_Qyz1dZ_.|#m
w7x8'MB:&jpF90W%GUS&Q:&O*N3R<9zg^Qj^O@RTZT%D78KZH>o%3%N_XU~-Z=Ew!,9w4k[cAWgy6ux4~+;O]QC<S+?hGK^]](x
%>^j4*Tp%5.r.zRHna&|~=J$^?c$FgJ>l)AzF3m]qW5Nw-*d([dT*].?fS-.'cuZW^NKf?k)6HVBPL5v.QjFQs%NSVJs-cGkGIn
[i>f!et>^Wxb3DlKNfgZEpRc1W&1::$otf_]rV2~8ifeT;dhI@3f@&?=^dm?aPjTxOr!#E=>^xP<|Jp>$CL>~)Z)%zMS&&$Q0J9
f;l;91<-t5.z<ze@hFOZe-,~a~B:J8mHf)h|)V6o5H[J6-3D^WkmBMHgz::)*A=J6_ZJHt1^mbwX>^lD@=?Q_15v+>'jPT+x18.
6hO+10:EAOWUrT2TVdJEC9X?3-jdiQNM[QRwJPS*c8DI@1%H;8!eX1]9[e_:Vp1y<kd0egj|._y(X[_M-e9bbnR=o%;4!H't+,v
g9c~OM)(?U3#,x-%8'i6|X:;S7hs;DE!u^V%aC$LP,V[gG!LP=jWVOVw;'=~'1lY@ZcitAMV*F3.^<^V+%kKv=I)HYqjTu|;.d_
I-c$.*XBMXbxwgyaG%]W[,18'IffeBwb5ptHWIgZQPCs0yu)u^N)Iah)_'@.p*LNlBA7MO=E9qZSA7#jKQhr|@893^8A0i<lYfx
Vr!->xMh<u't,XQ74f*6Og^>!DGs1c7aTpU[&KEym*pjV?Ec3;Xao,TvBzbkZLH%$&QUX1A~lcN]:%ajNJ+<t*rv*3*S$W?PQeK
oDoVG$.t'?jUVMIO:KE3m)RTTtJDs~N$-'h(.Mk>32bMVYb9=8&Hr-_$f^o[qk$w_S[YJr$0>=%lQa4m+uO^-KVNJrS$x%20i|$
6P'(:*u3uPeHKgM.-~X0kUa13I]S__>&,1<5]FD9R7Gt>lU]Ss+-7d27YmKKl2J1g4k%F4%CPXSQVTQXL84O^&DzK_3q&q!(:O&
NJ>M-JhBX!5#3-Pb:Y]4oDNPid!UkBSHl6S?5g4Y4,qh>U0#'_p?B$%g0|M%;F&lm#p)XR1BfSh57'HbO^n[BWbHFpgcG+!SRgU
1)EZ[6cb;@zrIl5[^tn6Cab|wJGZikD)$AQ#<Z:@p^[apzo.D!w<%qK_@5N<(mzT58E*bDOhDhY:I25t5csK@@O;*JG^Bp(5=7U
Z)nQ*3!~_x#$u,]I&i8;r!KE9@4htMbz5ra7~wIQ3dkO0,u3BBdIh)A@gvBW^l.:kE?cYp-%%68mmX)'+qyzVQ1X4HWxF,pInkR
:]Q^Jk-e;(15XNwF-n9*dhs$$N#vJxK|QA-)EfP6T%6u,ozOXATnYa9l8F(r3>P[>ZPUo|I(pF70xp^NGkF.j*NpN!JbwhuXjpC
8f&Cl_W6uO][ex'@6oWhhm63bke>PMDD.Ujs$Mn=s~,_XF7,u]1VgW]Ygv5&J]?v,16s53^?&%:C)rC5$P_Z:gf_hjd|ex>=NmT
4gSK7;2DV~_fVNX>^0'XXXg'qIEeJ0QL84jn)%WPLzX;ZgyXFa$%'x(o6[0jeI@eU(.!KI_pZPyDQ'J[n%BA8sT%D-Y?_<LMxZK
:DeJ?]gq:!u8nQrBNuCOdRPV'hjHIu>lqyBlBH69SkSuPCT8*ui3eJGtEULm-@H*.'Oh5.LJg+9D.%hYGMaVNZ-ubEcI.,.-[bW
2J9AMoVMqd?CjfC*u)Up@G0>_5oPKChTCuw~@f)0N~dmX@%+O1_lhRPhEaN)#CnJ=>Ck<eglUiU-am>x!#+tHur@Upo8kEr7BMe
[(U3z5MB,L9CFqkOB+1:I:[sEg4[=<dqP[E!lx>++T27ej|2,o0F&SR19@!3:6jLql<THj2F;BB<w@V&(boiprO&Q3J]!o#)o|?
mQ~&_0$q'heP?CH=*g0|Vw6Dg)h$Sl?K[e]Y;~@aVZc%Cuy_]NwCQFWdUhJx'1v-i%ASq9N+pIQ~t7Y,IMH@g-M)<7d=)N^vZs@
yIAMO'm[1UDid=eTTT2#u;v:F3JZjrMLaJfzbj9*jpB_V=6DASKuu&$oKLGFE'a|Z%Tf(,_LQngIaMuEdPxr>sG:FKe(jnKfz=u
q^&Ht5+THyLAO-Ai[9iQn5tkt#dA0Qb5HS<=Hz|sa&3%woD(8BP%LY.pr,>AGbrY?im0,gm==FQjD<RlV_Htwf2my^n*HHAfOoq
D>*8~l8:%1':%HH77~xZJj8kry,+Z;Jbn#6x#InyPIT|U$|e*0xc1i5]FA2sr,,z5)[sLD88,F^JDVsMJ7B29ncgQQ&fi_zr|9c
e=mgrUISlAZ3h,K$RvG[M3aF~;TeS,8L9Hl4m6zLkSH!VexB]+'f7u=B69T?AU!-z^Kn7@E9;M@0V_Mi7%VlKh4go[;-@L+a)Rl
TY+MxY'C,9t|6W6NpD2w#*=xlXb*_E]|%?;lORPjrI|6gan_B%!87*r#eHZ=%b^afTi'D$Rv[RwLaenluI8wcD+hul$t?@[Ww:i
qVj6G3%ln|o;=$C2HC06|4Bbi-WVAk@hxA-ao7XU)C'qh#pA@pXt5awK5GA$9=#q;#[.Z)wXhCZq,3!XQjT^BZ6f<wStWg6aRyc
FC!c;O~$^lYNq4;I0np%2b~%WpI7zJh.wd.wk>TVb!Hig[7UB8~sHo%ir$MIDAE[Z:W!Zpgusymyi2Oq,|]%4)#QvOpY'lLc=Lz
iI>cI]<mmCMbIl9W-bF6rBILd=|^mO]Rx$ywEO1;@4yP$@H___uR9(r].pEiir|;d36y;<LW;QfYbwjJzL-xcL+M%'U*K@3B)!Z
:nJIgQP)tVJm;_q*bHT>Da(@wP~@3]u9V(NL5?s|3%q~#cA5dWNVNVTR~On1rK>~)9JQNs~6Q7Kf6BN|Wc%'>q,'>M64KRN.qMp
*>1>'%wxq1u2V#A|[DZ*E0a!OAz%vvC~b9Y-7#7CBS41)jWs@xNpcyVTTdC>#97'qT!MP7atO+c$w^G3OvA$F;oZ8u).ph(fSu5
rfdqtkAuXz!m[hoq0&tN^5f^r-s2[h_#9yt=26Uz12TTol,NicbV>?H:Nf20+DHiQ'|;NmpD76w[<J>*Emxi*vqy-AQ#!yqZc8o
g~'khk@nbLtHCZ8Q1p4Q<~[6E]O0M;K2Rl%7%!qR72yx%Bpq,q[l'tCWIW;kdg03F!PPDf+ebXP]$qTGstIWs1*-k]298Ap2r2t
o<E;Ui$4q(O0oPNGB&>ka5k7GyJNNFXTj^G:Wmg#^394'nu9z-DNEEHh|>$$G'Iz*2JcZS(,?vH|'BezI2Q(&Ik*xYL.8[h9(>!
KmrvFi'Z')Bn|X?1t)Z:9oGz?='9%eKv[ALp)clp'-R,;9U?A%).X8MC+TLe4EcssAhFvLVdw=Mge?[EPWB3z*;,T0$D.TD~[mM
wiri5)?9hMW&_-xIt+BPw_RVT9$Z]BKb15tr@;,Y7!uP&EtUqbehGxhwnt-P][8z=Ix?VD5'~=Fe<u9wk7Nt9bBjxogW-&!k8(5
*Tn>]4u;:iADcbq^iYbr4%C7txENi$<;*nx!+ZQ8vdKp6iBKK,b+;Xi>VmI>YrP.L<~1(*T|MD#:vy~,F]SZ0!WtXO^L<@2=g.!
A%hpy,4d*SA5o=Q=MI<r8YcMNg|<g~+*>_pdhPfvMwTDYcl)tCN[+qK86i226p,0Efacz]_ykI]Q^lXpJd-o--u:KhWU3O~Q#!2
O4+L7)c?;GZI~C+2ECg#rE%C9:Iy;kbR.<[BX~vG-hq8+&s<g+Mz1D,)@9rSCww,J!pF0X7ZVrW%v!uLw@JTQ9.aZ,k5($9KH:3
h9|M%eQ;++(dhifn+?KgfDM;V|NwxGK#b~fyX-cunFUgw6zI#+BoUU7ZiYQ<0shd=QB1@7^l=eKL$hUXM|fM)pIZrN&$FRuT76X
5f?%vkAgB'j+YF,6-g6<NO=k,lw$L;5(aUn7$~VH8wg$EInqU,LcqwDkIOYbx~b1s|>)->MS1MH?iA:%CtXrD&*kN'$!3+&@X0R
Wo,Fz[JzToU2'I3hoJkXGX)N+fxJPg^eaE*#]93U_ra2<h%av3eI1$~&%4j05Gc:DZHMbkV=wuQ~hlvHtP9^'6dH[#ZOLpF~+3R
DEFixI-yaHtvDtlIGo[V>y!I?owJGi_R)Wy;wIN]]B_WV?^xtD(O7IbS-A;Y103-B3m+>?%h:ZvgN4Y49(%wL,Nm.oK.o$~0E|@
VTzd1<FM0^.E;znqphbPHNMI>zk?3R*Y]nGW.&Sq2V;K~s7F5>zynjHe^on^G.(^b=@YKZ[2FmxI2$^~@D<4BsKuln3fLIh$e9K
<&LOyFIkC[@vcm>xFNVWP3PBq#OBIS#no3Y7Za,h3[l;uH61NG.x-CbQK=p'I[(+?R8Gc.S5q|V<t^~di<c!E$-n:KIT1,,6Pxy
VzSa$D|]R5_<(&Sv16,^t^4ksZ5ffKx+oPno0z?4;WvHOg+U(7-kfw1SsAFY]|2LRNp&pClt^wRALa~5AdBV,#skk:J.uU3wYS$
@%hBDscfB>yAwbD37A;]f$1PJFwWm~i+R?@2_E07Yjb@0<f:68T<<1Q?^cbeeVvGl.eKah!pkwKmAc%IqMe:m,cNhG'#mJu,imC
qGwf*ZhHYhaRad|q,ngRpu>HyQ.u!2D4?yGc&QUmg64|fcsI,&jQ3B10y7<3L&|Z~YqI@;i@V)g:~?L<J'+bVnkgyTVu4Ori4]Q
ScHJZUS5dioF?Q?wQm!#-&i;R?HdaA)~;-007I*yE0zjYxp4vT)+5RQjc^E%34L[mTvp,lQCr*n5a2B0-~1au$6qO!qhAI:@[pU
d*y]HrG+r4]+m'pp8Ot!g$vdSB<['@LrB%7P&_'%T*n3.D?anc2',sKXc@OYqP'=a%9lT=Z%O5b-w(TTW>E,FB*=<)Q,heH1J>n
!$?EB'IPZ_7Q%soX,Ql8:vJNl<gmS5:KgYbU_.U'_7Vw+EiC.WV=l_^,-ld^j%5y$,M8y2-(*#(Qi>#SyC)&qaH+[g_j>lBIMcj
E5c>5gYCktyM93-18(kpsCcxoT:UxX]Cx)|sh73!cV7q+]k:K!RIfM_sg$7_ZlpZm@^ffn!^2BsaR@!I|rz($8jK7k]MBOf9JLh
c!|#B7|J3(M1iYSD>PXMXcf,o'x:t$P3Rl:jJ'<h&UA|a*^|%]FYz2D,?H*p[sg+Dd(sZ)gjdP.;>]e!cDvF:k>dEo]zGPY2x~B
|j95T^vyvhB5g(ODrtc4dT9[m4pZOXS|iQMB)sJGnoQlgV7qyD-uAaPgT,3?'7<4rdrlM+k,$YmMYS[m*;K[-DMf<*q~Xu&I;e9
Do|rfBv!^OWgNqvN.j'SxLtj#p:g+GVzHeY^Rv3Ujj'T;i#y^sL2M;,'Y4&jI'yBrLsYycA5_83F86QGK~Yr~~JQsr#aU.z6]1?
!-2kJ[AlMQlG=3q[G.ijZH*l,BIRS7g5=4@D*u_qLE_C]&64E,_!o8MtVlKwF|o=s=$_~uqQb30r~xDu*WF|k'qCk4Bbzk&w9*5
%U7sP(^'Zv]jy@8Y+F>:amMZ_QsYQR~suT@A8,]O]IGWC9N@PXHUSptBPadK0cfp7eCwT~Sf1Y-q=K()oQm#YZn6pFODxk.q&D#
^Ys_GbZ<?J94GOWK?.w|.!0DhZ^o7YA<4%wVWp[h0'T#:RobV1?p8UuvWVh<-EjEJeGq+-MeWx_NK]ja1lclC3FZB~!0Q'3y|^<
f+vGkU>x2m|8~5eQST<wxYM>54bYfQqifh_(B~roF!^uBa<4u3Z#XA,vdv6JS_vP8N.r=$=Q2PMnYvz74Ub0_D.vsnKrx=U_Bt:
%w~~hpf6P!hUoA)^rEZS*_6[[pOsFwK&V?EI8$>ZVrw#fEm-OIT[-ZpM$,iK'avH=K*L29K[X<bhW[f8d$BDG$ZX'g@tcl1dD,Q
hcrUt+V$F3($#Me~Vw8@OLPEQra5mZ37_[AMWfU0t&=>G|=t2?aBsEnE:@OT>V)2oaWYoD3iN:5s~S[LYk,]e||:5$HF@PZ(G#x
V+U1TmDkwiFT!k0a|%PodhUI;[9Qk6|e9^,c1xBz;op5-TekZVo?t4HZv-v)C(Y)jC_W#4Gkq<ETJ$j*cUPo5~I$>7(q_Uu:Zsx
X$Elolr9H'rN>0&~Z%szGE8?f5FbiYjnxngIV-PtaVlMm3c&hjis4]D0nyE<~|.dbA6$<V<&m_DJ_A*<?DH.O[LVIz.KJYScrX<
eOkW-+xV:kvDi$V+ZzVEN*P#pnWm~]k'~Ez.]jl*g_&-#[%^?.VeEgkerP(;hpunr3%Vpq*scXc-=:&:Da@hEsIz]OHh'du.Vxe
KnIgJU7pu.i3QMSnifDE#<E1YR,V!aLPVQ2foFC,DzL@FrT,hAI;L-EXy;bp?E]J2'x>+Upx$wVHtvc>w-|qNrxrGO]hk,loTIW
hbQ7CR9&#-9y'X:h|H:1Xa|*?tg23v|.Z:gZu&L-<!$M*I#dXO.@hq17fI]*~_2(-!^:V%^?,f(0hy]Uz8$@vp0'oxWjZE2FJ7|
fX2d~x4+-IBwnej=$Hbb=Ql8%JS-+Y5$JZ_~Qw2KcG(QYjqaRP!mo]a*HhW$I:eEl>A?=|Y^]$]#P$cO<&:cE#%xIGg<?3E)!rQ
&2pD*5T(':|*0sG(fG(QU'qB=sMeL+_G-Bn=OabHkcQZa-v68u<)KzjrM<3C#2o_1;ss^[jsgq!CaoW|!I'l<i4hAZ%2k3zMpCE
[w(wUVMh=9AaznSvR=d(Bk|L?G%ZYw*9-r3f.;Y'^a9=Fpaidx6xz2ZogM_&;jcM=:>^9Sux>+0w_&XN@o.j*Y[)%f.$b_.0bRL
gV;1S6#+|F@P|VXb>UX@NO+JwMpfK?!W*CtCh8Y=>?~FL3&^u55@i^x5cEv!W#$zFc%x[QjitvUlC=HzVm.U'cebIPv3tlfxpXj
4#Yk?fJT'5kOQ6q_QA'0MCP=sI'9,OT%z5]+<W7%B#acla+7)v8uk9lwQR%Qqn|bCZj'Hm.!itQeq380LB'y6Zk4'nRQ]NN<U~U
XKM$.Z@5W&bj=R3[@:tFta>pO|08$s[JtlIczO+m2h=zDqaMqASTh1Nlkpw9qtKTR,ngzZwpg4:VIC^|WTREsa0IGjOq;u64hoE
IZ?TD9kveY7Y8^!&?L+2t4_L6|GMzuI(CeW>tQm?FAfF!nzT0Mb)r]:zEESHaSKUb8@r0RP.TA^bU9G!y7T:dDdJ%6BA.@@@;y!
$s$=lOnOpuo[@2Z^|Cf!,[T-=kVT560'~5$6;!mp=T4v6lZ5s^Oi7u&Zhx9W<rxV<6Af)ieZq-XPiNq&=y1yW~~i|*ZIvoiD(-]
:BT]nvRGtqeg9!bKLqYq?WZtz5Mz_R=4M7hJxy,@C;~6yn>ER85L.#lvv4crL_!%gq73S#8uqbU+u48vmTNZO^X$,x>#<YA$:B~
y0HjE(vuzi4Q_n56e.YqH#QRP2yJgOC5~f=pzKdX>nZlb0F]s&ZbYMl]$9B7KaG$L6W4Za]|>)Z(.MfgCAyYg%i(jm,IN6.=fh|
q3dsRX$lA(<z*.|-NA-O:y%_$YE~aXB@5'<95xB)+*g>*zeLxj>KI&j#RLCY:VQlW[lV14McL<*~^-lV:OmVvyK,sPw=D!Ouy(a
[xE*N)(nseb]CBci%NVlDv;Tl7]LYxQO]o6NOZ+k5Yq&hyMJZJduad,v^GN0d2O.Ho_H],0[Wbydp?I9Q65ys(x0+[TJ=+M|$RX
oz2fL!Z9n&edWh)vf4Cyhn^v%[Mn-!x|)5.%i+|e_=ZHuKIVi:tVmZ+L,cA^X]|$:&@9BuWW4ALd<_qKU[~D'X~J;GJrjKaxx3v
*Iw|YddE)kCNp&js4G-q~jbHA7VAMO#rwlX?tF[[CbkG~b2dN)^<s9JB)!,53|q3y_a.3x5.w=GbtTGlMkw^6gHe)|(a-T6Ff+J
zkZJ0x)i6h[=*XDcZtJ_BW3%B3>oz8'V]lg.l(VU.aI^3SdAKNpU+-#_f?g$i;.r0ave!mW<Jx&g'cQt'R'5md,~#Gzd.3nVz4~
>y|Bt;3ZH'HYzi3ER[_MlH.*Xn.L'@i&gfX:?Q|whvM%yEQd2:!]Uw~*H%T!3Y+G?&,nkQD,yBwJl-E6Oa,fO@h:dg>ZF#BjkKb
Gf?BP[Pvke.U>'ml>)4k~&Pv.?u,Be*Ce%zJ;)Rx+SwNt#-oc6^6uw~$h]LX%&ALyT?|*t>%cm;Qyc'C7u^6v7|IP-=0>i_t[k?
HS,.gM^uNtFk)NNBzZ0P$OH6vLXZZ5lL.JDLXb4uM>91#J8>b[l?76ee4fybiS7[j<^Qg=ultz%OmOG[Y9K%Y8._^g^uT5qEPQ>
CYu.7C:ALGU^2x51D#^G@WXI#d*mEl(97_L1[rR%?<m!dU;Rav1_82C]W.2~RPesSDSj1=6LDmyS=l3G'+[qE6sR8E~^+x@K2Ll
;Pi!8_k15:c|-L>G<l[Bymqx~JxwgH1uqE)L9a_h<l'TxlPWE^CgUs++JI&W+8*?*6X'1]DH@YL+-y)@#W0sbU16cOgNhZ2ZV(i
l-E7.q=iYUHHsZ%SrC&8O4d;jX2@-.Fr7]5^R*:m,OH4g+.lpUd79(W_<B*Zl^Ho:7k$$xEKd_l|QAzni?0?QHM;:TR6[K.,.Z<
goEla@yepqhkmxG1H<D8X-tL$es~Z!>iFNuB^C,+0x5_Ur<|aWz<6!ZIx:^U%cBO1.2p@qDPy-z:P,BI'a>yn43B<BO-5p<JTbP
b;A4jfY|w<T]?j&D:kGtQ$Zs<T-K7qhN<<z>6fhkoeduJazILC=>'Z.7)E)>6aN)H@q)GZA^_jxn:lerGc;Eij4XwD$rtpqW4F'
0TvCqNZ@sG[NXzihNMl94ycu)@nbfwalaSh5G553!xXY~!<cJ!qfV,]RwAFq,r5evaIkQPY:4hULzgMuM2>E!^TZbuN=:pX-[7$
vOXYoD#4;:~3OznD#'!|myNHXX,Pvql4l!w>yW2[sd76ge(NPu?4%Bk[X6PdcV36&1&jQUt_|moq5^7EoIe(;8<gpkvVb3*7DnT
4=u~!tpga*b3PwzR4JP$He<%!zLu.:kzbz[tw2+&fI'z-IO#k(E3T?^f2BLmT#;tjWP;(5'qg?V6MtN^cv0aSM_cja?1U54ylF4
Q.zy:3>VX8aW|8<j~ghP#R;z,tPugY33(X0k%m14PHW3yJP$ANtZuXc4Ync&]k+_fPp$&b]H>|$sZ7k1A!MO<9Q9~]OHHhrLx!0
U$b*(G!<vPEqeL!uV[(ruD>)Hn^Qxcr*iYUqSXJ31,Cu;#I8q>lA&@+l_,d((w[!=(:&Em-J5ks@&9#'vyflA:5#0BLT>jB%U]!
9GN>[QZBA1VcsrJeJIo*fq$J,VbQ34*[Xntq$?KMkvK6]sJJb#PW]9*Y,hs<Ai*^No^W&WzX<..x|^0;<W(kVy]$FV.&g'z%&r2
B(Ud!o_7c!(arm+QTM_-y7_>az[EoOsjGPuAf<oGr;pdPOP^woeFD-(K.Sxol<x_X73^BeVK)x$I$-H0SsOy&(xE~'3[%r6Gpv=
9;jLXqmu*!S-vw~l?oAe|TtTiy*y(D~o)2(^-coV=:<:y6eXW8vq9pM2MoOQBQCi4ZYO9x)+j*&VSiuDC*Nwc1lO|uuLn!FD~aL
W[L2.y%GTY$fK&X(6+DylYz7mK[p'x+-k0[cQLI%:s5V#n%MiG!qtBjP:G%hI#QDew'RAjJlPw?fHmEJF?*P]|U$<],_JF>5<Ah
u%_hBMdIq;GvAZ=r!;&,D,04p.QZ|noZ(cv9sM>,eljMxZYFE;m.(wHVw,hp)55=@4sUqekCX&<|yd0rg?20xID6<6ZSYkWz|fi
HbXv0aq8|wYM^36y|oGI:U^1zFib#X#H||'ANB;o3:UHIt+_|.?%7D=(q0SOs_:^#JvICsGpn?Fbt0skWX=.:2w$Kexv8<EOS5]
E,~J^zWt>yq.:.%x_!<Y7ES0s:]hi]iEE;J>O:K]'902+.a-zDc)!B|:3JzhF|s_[^k_6jjc$%fqu0L2Dzk~T93.C'3*^BMd9t,
~Y0k>7(hH5.9pt4ocEuo<F72Hkj+BEkM+:^UrY8b1lhT@%YseyiEr3j|1=9jC[DkQ!+Ef7VLKr!S9>HDZA5GIU@MgTW8302?q0x
]mAjWRW9W83Rg!C$J(E9#JBT=Cd*,un1q]!)x3vsc!j_jppI:Jb0vjRv(UO<^,^Mwu-51h0(X-H;+J'O)tRJohImpR!08;@oZX*
@eGGWOSF>-7na1u6]nPMGpYa-JJ:QZtu%_qCGm1-fEdsqr1,4,XpG+V$C.Qdo~|Zm4S(R1|z4orvu;g?^(t[?9>5:$>P^4|RnBn
8=YG1F03$>47'[>FZ@'!-|SsD^v@W'PU:(ftM2+8Ns6oF%y1+C#F16u<vzf+Pmx2Zh2YR;ZY8wVWta6GDc5fqclM^~u|,tlDfbI
';>7o)]$SZ<y3c-QwwMo&DmIST@z?0Qe&zZ+j_&J0$b*^o%vo[=7Y,D&Dns$e'wrb('FZ'@mE*TU1KJmwobiw1^0xcq@F6uLJW9
NYpKC&0TTy:kfeB#eC6iRh~h!<,YH*2vIuL08_vtzB1H4Rs]cR1MPqZz#YV@#-~zKQhsuq@BHW(tU[q:*B0_^s.)iYp'Kaj=$Jb
rjF8jw:ttuH9OC]K:|o[4^^IOXWjL3V@09l,&PQm(0gddUx1t?V?WWd7t^(bGOW%'S1ymN_Vn-3s)]G3I)JgeeZdE0FaxRlLZK_
5L.3ZGAt**Dyhoe,f+;Xn2[#WHL6ZMeq%-H^x_x0)&g#XLIh50U%~&!%ZU5|+9cQgDHIx]2-kn>j+1.?VEn$,8x~>pXfW|k4<co
Ju6|0et8oECnJE,S;cVBC0t9TZU41?zqr_D^)X6IIMp2n~zEu#^]5|i$#<7J47Buk5;Q9bxjwtGg9b_<YYq-Jn$6c!+Z$qhyj~@
k~&Q.*3WwG)&OmqL&G=nANG4M%DLTVM3f!1f;!_H=F2SO,bi5D|$B)W6cD7R5E<%fQAb-;QVa3l.S9~=m)eGxY5P[M!GigG8co+
Y9Wr^:&%GCg-S6FGYakG&59RAW|n+H?>Jlo^r_|*Z*a,*pB&a68,A&wk+C;=-4AQgL&9s,?ezZ(+2sA-ABOo'Tpcj>#*9LYg~?R
4=fBi,HV*P]o.F!v7PcjRm0-o;-am5Vp7+J2Eeyonw^]#sLn7%.U']40U)+i>^%s*ra=,,b_Hm0+7svyX_9&#S0ko_H-b8ccB|k
)iSut4j1?SCyGU+R%>shs[Pf5.|VUR!Hsfiia<+Kr,D?[jqKc2l8SJROl]yBIc.lL&BDt40<60&#HC#$k_u'L~x$WE9swkz<@4n
jQZg#@4'-lIOT9HDcI7z3R[j*9h:C+'ot,<xG5GBKaL+Dr7jH_mnNAY@HzH;joo-Lzp$q.OiQWq=QrJ&:_]l5m@E-G$_.l2i_6r
gmaO@!-*&VCz-7?N:8RJSpK4C'C;Zh&-5VMG;#|@)N~QZNnZ1#mrVY+6xJ~HE*ETwl*iP7IU[l$<+fuBPxH6Q^3U#>)%FnA8z95
.dz9sg&(N*J!Q-kUl)]'LQPH<L,>r0mV^F1wlrO:[s(tXHAwDQV[fU*##peMQ9vcImjAqQ_a]c.RcvB<6p)!9z#nuRcpi)~WQaI
Od*>~FILhz11';9iADh@*w>jpvBy]7AqR;Y?sh-,b|9W)!eKAiuXsZy])gs1)^IWQ2_pOOL5meMJD^SD!>:mpG9SPhtc*jKJlI4
NN|[qRf=Y#JEa[Tp~gSGXy.KWWh4@55YVp;~V|@Rb|03(2l;Z4R(Ndt2;g;mEB?e6:67-6s<H!W+S<Rtyy=^w3V(GgTrI$Ehx^L
o6r0se%w~>BCkU)Hv2WlufcCAd$b9ZA1Hgv=tekmC0aPCjiC8CKYJ8ilI<f*hl;G.Tl6>$9NqBWKeX:$.p]>U5@_O'aW:n<c-R)
0<5IoXCneLKqQ>(U8lBLNR4uo@Bpc]NHdp)5H.Z!-lOE:ea@i[&^#%Tuit5cL.JJ3jqoks=KnM&aCfEn13SXFN^-)N#1)E>]FJ<
]m^1-om9U(?#5z<$TUDq&v)FbPBv@swXL*l<u1Oa6Af6a3wMDA&~GignQgOWi2O7]>03hMo8[LOtkb#g1<?,t9Wbz5G,k#%LhG.
]THjUn=HZ!8b]Og#x6@yphk~n)*eeEPy5cn>K9'AY(zO+$w<;|[.g^6]'^f[JJrhN<i*T,SVh%]E<Q:vi)sipR3K@hu>J9]U(rq
QZ(CZ1WamAN@!WT+$fDZ8ZL,XVn_[AXjnhwl)m=y([vJM98V#'FVta>e[aYR~m>sM0%4:sXBnKAu~bWa^<<pcei_.gG[>Bp8:v$
JNer=;3Y*~xSV[NBS3-Z;ukLQ7vtfikU7*Tzv!.js!|&n<o-|!rjWNnQ08e#S<UzGqM*3hw2qM$^#F*nBO;|@u&uJmT0ovOF8.6
-G9leaa=x0,:U=jFS3lr&.8Rx*LL151[N]5>PFZ-CDjSZsM2tihm4jgAypJLc2Zk:md1Kw4HiYX,Ktlc(]8>Q~t.JEPHOkU,l5#
EY%!gbdf~F9ie+:s))nNzLQ).Paw#_[*726|3Z#vY8_R%Z,f54?.onV8gcQ,D@!T%]|Zg7Lz8,Rg@a.6YK;cZ:Sc3;L8Wt4*G4W
y(Bl8=eddUXr+Zh8]#u@kn)G2UC8yyA,hLQiQ1?qQy~6y^y~Q^wPp95gAQ!!E&Ku9i2ewSJc,RXeRxP;.U-.r0dqIlGBnW2^[ih
mFg*2VN5Ag0yd3Jsd_os7>SIapIT9H&+3D+=oC6l!DifyL=eG,(~N=aFNdhn)99.H-?ul6VW&l4Y7[9AxSKv1[1EqCLMS(_@SYX
1P'kp4*3_ca.Lx:^=C89CAz!y)oRNjW*'e)$pwU|G,MT+XQQjjlc+eK)61.!w!-OS%KXGD~(;zv*P9%@WVm_&uNlvQaEbNbt]z=
Yg3u[3t2i&DP)zPnq=803byCdy!ELb;UyH8d9)u^_x2Y+El]-n8T0O+!.3^''#uZSB5T^R;G5a%]X$Hg6cF)Qc:!7d5xr'jF7E^
*tMK3hamv,_&h<2Q!6JALf~xIlu<a1aX!;WweEVEe[T.W+<hZqn:1A%r<r2XCCzg'm%^V4gyv=v$WcHbJo[uud|dKi&(>HsGSas
r$e[kd0xYi,%4yp+#uSFUd>pMWoz8=M:yr^z$)z2r_MVsCWdKxZ<&LdgkXF'9;WGHzwE&SSjqR|<,~TI+jikpA?q)wlPXHfvo?e
G8Rf]=4B~$*cV,nh9jQ@|Q]e<Fj-DD[Pnz(7_ld!7Ka_!A*tQzUmmf8B@A(+o3]k5KxmY<nc$XP;Ha|oC|gVu?QF*bzf2v_E5dp
ao<$~@e.vGEgLAQR,(2$&i^k*a'A^b_jKAT4xejz,k6W;PB~k:K)!xzMu!9F)_#K^eWM]T(#GfuTM|0NK7iV06a*spa9KK4oM'y
Cf%lQ_4F~vNxRMK&r,SE_dX'%3WFkoD7M=;b18Ho?_yZQ]!K5V8e66WD8:aS1Va_r9Beh@fPIzcpkX9G_FW2z;>=+SMH~i)Dej#
0t14Y|Dt;1<E:[~LgFm,#8$1^3~)Jqd]vfTJ3_m4zr&-JYfbq?PJ|[c8Jo5'1<UTbE+=+F'0!E:iKoq@g$C|Bm1]l*r?EYQ^+Ru
0(|sn%@vHVugNpf=.&!,whq^GXC?7skA%?3G.xvlUw,&|o<r*FRYucSs&xj~=42PnG!3u;gj4i.G,v8(9O<BKFP~SEwyY0!*MwC
d|C!bU2Th+1csQ5yeoQYY|cq_l@b>=PYZrlYE7G?yVW4vUA<sci.8aw3'V~?fo!Gv[O:4b>qRO=*?gsK0,vRwxF3>G5.8-@A?s<
~rz%b05?n!d!FB#TX]pTYTbFEyyxr#lg&.$:+AsC+_mLd5;m]05Lq^g;QONc_2>GC'O|~FUQI7D1:Cdi-K&cEzd%UkpdWsx5&mR
>A7RZkwuH0]>d2x=>Zx%l(G6)PcA~:+LWH*^y58|fJ9nYF:?UyOxn#xS|[QR+q1CVEnHZfF.q4T|FY53cvVw*E]ej@r~,Jw&v$C
MZrutinmK6!<N6|JP[O39a#m9%)B13BEJ3XG2t:R4s?zEO:BZ_Q+4fr_lV^3TO.uMZ)l8hpwE&AgTb:(<YdX'1&uvF=VS&kWNsa
mYP042w?8KE7U9|:]-d:j(L.eHw.B6m+hxbz-7Lc9sVqf2u8Jx5lAXv0@mGU_7lPrGNF4BIjN(g'yRXi<a6UXlF|XjesxI]*[PF
+-2xddZ?gr&w!OINiTdaO2Pg=:aO8>]omQ<hr9srk)B2lZnfp2gu!q'IWea2L0h=O0sH7QOUl4)|z1r8Tdv'B]C'>5tn(DV2-9s
1cKJA?h|zi8S)r-K^|WCr7Zf!@M#,jI*l2cwqhU<,z2dLv_7,~qR?3F4Dq(~=@:r,N6_p-G3eD!v,RXNq|mk4'[Gh8164'oHcN8
XDj>#(gJg$+<7L.qX0'.7@OD;sD_cGL]i?d&<1^a?DA~7(@cslhw3~o81%8n=uUuqvn&%2qB$Q=#&[JZnJgbMH^hMPGB1*'h(!3
gSlf6d6U&.b7WH7f'e$7fV_CV'5yPN-lI~%V5*[^>OD&DGut9L690oO-BSLRi='7]2+FEq1y.~Kel:FeDaJ>G,1R6HDCDkLBN,I
ezp!@hoy*](iv$M1KM8_Le]@*(vvU%63SC5.J?lPVvO2K(*l'78fXz=6AbX7pB||i(&97i:C'k?)8k^^F!yN]r&vZt9=75&Ac6j
;K9$_I_5@WNM;lg<J^$y$U=aj=QFZNXh@g!(I<xmXue.k$u.ng0~OJosQHy9!X%QuS~w&paPYX%Yn]<=s;i!.x8$$4#@&mkzU8l
9'[r(4LG&CiiH3>UdT~=jmu>$tM|T~5+$gz_n()%d29N2lE2aVp!#*&-Uw<)e)zoP)+H8h[eBzeZ=hR8;+#narPCJ-!2DQ8UCo)
of@aJ-?<u~W4S4t+qcdv!VT(D:*.Jscr'WigAK0<k-TT4bB]31Ts9Ah6'cTG09O'3m0xg27vD7Xwz'|O1,7n]!RGq|l-Ya6b^|S
(I&w9A8Zy=pO00^dbts)!G-eL#>_.rpPg]JFH9w2|^;mn1Wc~*<w8jD!cbD|vwnxTg~'awCE91OzNMz=9Ld_CrtU~Y8487'%ly.
(N1mawFHjIfn3#_3P+ig5L_K_4'-Ms_JuzBPPaoZ0m$kamV(2n?rv3%fWOtAI2uBLL_nfIH!?|Hb<4YG&q?k[p&k(ME33&?m+;o
mJUL7JEu?eQ%0PQ4w.!.r+hi[=YyaEbiR*Q5;*ZArgjqs3v]=_y~EGQ'EO4wv.Tg|SRZn-,ykO]PdX$UI4D<;99WkbIvz+7Iwpd
x:R^R6!?U$OmlcgHsA~l.9Ar]vk1$*vFu0ujD#BBXSOoLRp|Q^c,AY642+Jgabe7bUW$Z0'A[-7:gaHACi;EHg?_+@21PV&VcsO
LT%<g0S|~J+MT;1z<kksM~38U94|z8LQmsQA=%9HC,I7sV7B._5A&(:OCoS7-]zAEs%Dc?lPYd]$R@%!@xVIS6jDVEoM06Ml&iK
~o9NvRX|qS6AXO*Kp%dr5u[V+b;~H'J6G;fo8HSp7MmnP>.vdSB*%:*n[px[o+bIL+r8.xe4NU]YoaD?<_@,$&_wuR<*Yis<hkY
!MD6C&T]>l+ZHk:hb3bbjrC<0<%XN^9P60%YC>X7S8=i_Baz=NS$y]y-5?oPjSqf:oMVHoC5|COvwG5xg1Q(<;cl-8p!p'Zjxe&
bd>uXO.w|dQ:rN>Sb_i_>vl^17Z@j$ftiG99e%23[c*'s%5[>9RIH5>;JYMIh]xhO&KkUb=nx?MkO>~:u@Q@'n.@@:xt@P2Sp~&
1w[NF|~3Bd&t!OG|?Oev']qBhJ=Wxjj4_atF*EX~8M|7DW'[y9PqbrDM3Ud=8!Z3Fbla-bEKEgBWC0l'Qp'X4y_)]$pe3j99PpX
yw0T-Wid.X'3qz)IjlxHu>=k8rBtQA(HU~J~cS2!4w2bIlF7K|N0]ZE6CF=jDqIA?EQUL~i0%Ubtz%8N4w4u$.m*!dF)+QPh.Xd
Ti966$kn]K8*i|i(~!!;&OT$H!YP6.]+YIgHyqzBGBQZp%e@IiMkUiayYjVD=IX*]@S|Vt|uf%+<vCN<UV2+5G4|y[I5+NcCGC[
z]WHvlLfaw)85a+7V%5lk^cJM(MXoDSsV&RBalmo%N0>,@N[Fq1i,%hGEyDvUpfG80[8H.1ssCjDpW_KG:>DT)1l%[Cun[Uv;(?
Z8['hTvA|&8:bl_CqSV*r&~J6%vY'M:l,vQ$hSG22)0)uO<'@jG?<WA#H,;TNYPl@zn3!nu!k'vZ9!k_Dm)$J_e]O?4RtnB0!Y~
_?:0nuE0;)n<6URI_g;pAzB+c3'1QZ(<VKI$A'3>S0?Oa^0.x(l6O'>Xa5+A6e(gUA%0>EQEH(ZC&^mMJ@F!xQjq?'~3@2prDre
aa4v@%Hwa)Sp@p'xh:?]JUPuM,El5=D?!mu#j(T^v&&|zc#pgQ$H*O^x2HiT;>u@kL~Fg(D1lzv3AzUq?BP1^Jl>X4~Oo7XxL.Z
dKYB?[A@yN*cSQ5$_mWtU^=c[V,4y'cYkBoWTx+E-Njlq&nx-~Q91.Lb5_8T~<6W5Kj[d*etbiV[XEVO1xR9HRd-FO?Vm#PQ2>Y
0c't5#hzKm=JXxco7U=5N7S9m9W%ZIF0$eU4d9e+*%^cLXxZC=+,w76w-.G'8#h20D[bC-x]$%rnyvJ&lvR]@F=u&q3%eOnbRxl
*#w8))GV-avC'eC'-G:66G<,BNr'Bm[.LD<O<jb%*4h$wnB]O~Jpab_h.U%YAL:$_+W,(lWVSLXb2kQcB8^=AYy6|5Ffe+<[gsR
(m:Ln_@)xa4Yfw&v9R1RAk:AuVR>nwioRg0p@wZz7,5r:Z![zc!hhJ;a4R9sb%e@J][KsWUUtc@n5!Yty8P5^$tPRa_j$uHp~Y;
EZo[0Kpr91fV$:kje4[*$|+Y)~i(oJ#v4u&_]c(cz_g|zTBJ#7y3@]shi)IYaQGxN.>zxUwFY6nuucCdD)ItbcVGZv&qdB%Gt[p
($Pr_>@,cHlAX3O'WJv@;rQ#q[&CO70+UJ028!MTD=[z)8g.z$E$^7-M'r@jf)VEN9W3mYw'5ckv'3qv4v|.4dlACx2zx6D.Eo7
0HWIe2i?aMEP7~uD^dTxo<kA+[cemD4~K%v:sJz?ymWmv.7mb3Jn[0KzK]|Bv>e=JH&sCvZ+SS:.Ikg?(>UNZ4wzfna;gmLdlG4
f&+>iB;^mQ;5RqJE,^zb[@0H8ZbwMh!jI@!(m6kO|&,?kxXW0R49U1[l.>&S2cu0[&mE*(.Dh&1xeA0=9%Rz0V5=0F#PfldRCLb
',oGoP'Hl-gp?Y|nNNTl==cBpB0K&fg0M8-1-':)B[.xt$OB=vQ4sK@L;(DgrOc!jQ$(^RzGABzJ9Vb@1NB*.J)S6j5b_K]5kW)
n88ZChi?d@g1q:)%iHyPC9CT?lWK@wHi3,$i~N+0@7t%o63^*tKy|>i('EDV3JR2S[#aUQuk-18O>sox*W8H%ot$:bZ4T@Tr:.x
x@?:fvDWxphmr.yL4HN:pqIz1oX!1EO9[uP+bb'HXJ+p;s-x<3vy7@-k|~=k>eb3AjHJ*r)8@&C!4W;Ip)Tbwq:%?6<npe]?omx
)PC@_v!>8=s4[c]#T&=>xRZL-9ma3Mc~rye;z.$d!9Zm$_pwl9=lJ:dCQbLtEKr0h'7WZI,_v8E5zJc^R%gh%4i#:o_*k:J^&P>
5#,4p-b]Ep.,ee,aMjpFH~W]L~vPwk,]GjJ%A%_PWATh9_xL$id'Y|x<6H$iyD.O?S0T$D_KoPCm]IB!$RrwGK[v%1LqDFJ(0m!
i_3gPA.gyIsP]cp6H3(Z.Fc!iK12R_)3:V:*O@&$f%R=SC|u'R?+HE:baj9k_,H+K|fu-I$mqg>jVfQ[VcP|gqWUpy&@yb<ZC_:
*j>-V>@)X.%N01f0!I)C[rD+R,-SQ=jIpRqSWnkRI,7yUIda7-!_=yn|M~m[ha>M+pg&@-OwEyi5$j$Vwp3tf%D8tN2b-L<t@Hd
JD4osl30>9_@f6iuX6LFE3.542lh=om[]5Bg9W6VyO6G,C~iqS;qhYjuSX~3K'H_O7(gVe#x+KWnE5)EoZ0sh%P)$6X*MCYNHRb
1CQT40$4oAleh%<lSI%UiIju]dkkG$iPAy|hfFAi#.j0DCL#TaskI1]=4,,I_SdVI,@ywaHUV0oxZmEFZq@ndBhy=)ftK)B%^kl
QjL<2x?GkrrcWAs>3hfvw?DUgnA6xKq0G63nCb1J*7qUoSL5E[jg@^t.X5Pz=&Eu0d<D-16r@1<D9Tu;l:RecIR:3mehZ4b(uQe
R*F0.jA,CfE^lP+h9EH5=X~tu<Ckd;*51I@0B>wR3S;+n#7[Doj3Sf]m?HI^C9GFPQx]L6~rLc9P;>?y(-m8!Ls(C*'<HE]FC&Z
3LQrn7'iI=I*N68$mUlW|5a4>mO>U)FbJB|V4>W~1$,]%22hUoh3cF~Xt=qBB@IhN_h5+9DOpxAz<<TYML!C!ns9P2?n%sM:$$(
5Id0oo]WX+(JteZZowP^d~;ZUI%r8q?9$O!vpT:SSk!01l)]$^wOd$'5.sllQ3En.~yrk,+y_dV*Tj>!jy5*2rk^]0Yv)aTB#N)
Tt&jajPTyet.[iIJeJb0acuIt#~b9]#dw]?bAl<Y+lv;S1E@H:gZ(uRS5)Yx)2U@z-NYdWJZ8=[Q!'w$W'--T?ih:Q2XaYuze(*
r7Ax7nL]E6q,Z+onQu.wUCLfwdEIZFTn-1=:&#iT[?]jZUK@>l%k|xsp4R&aC8j95=-Ub0:%R:Me;eQZ-I=gj%vDkf%0$guXcOT
T#G=PpX[(@i<TS[q>6AHAoJZ~*l?NgMYK[|yc@3BmJx+!CIBk'u:1LePBL1Ua9zk,p,X6b2vv#OkQPdjM)ineA=:hYUm)n!Vl+#
T!g,rjkuY6wAWpJ,l^DmrIm*%RTU('ydck.&=#=p)vT8n[!_37f5TyfjOT:Rb=ON[,93neOgnmZAhLy^XZ)*:zKVg5g[ArD2BDg
cXy~YlR@uyYfuN9i_b6)Ewr0?N$1z^+Gz)d'7;'cwXC@l??JbvjR_YJPx6rzJfiS;2J_SsFUr$=W6RH*Dg?E8nxIkg[9.wX]ft*
+;>EmE?(]uwjE~ocIoi.eAZM[@'n~+Rfy<OSDDb(JJq|@C^s^9QfFu'I(lORY2I~rp*!(U,2&y2U_x6!.+]I8NSY&9!Z+-HM=!t
e]#v$kVf:re=Ig:A@Nvjo(6[I^Bpp7%1vPf-rq.%TxZ_8%g'?*|-Wn)Nn!(B;@0s)^!5&BN.qxp.[gLS:$%1k_sc<.a'Px=)*HT
LL5'B]A2j*[w|zQUKy:[Sa%Jrj3v%jxM.[;UM.@T?d72_Eabw)D5@.@wJffIek*p8X!X5HsZ!,#C(_KU#'byZ>~|osZ6iYI$yU~
iQ4FX&wim|B#5EU:Rxy)IcBgv;>H$a2Fq,w|d!4Ia~.ls9]~?r'O1Hf#~@=Ww2s8,e>n>rJ$,#VLwLD(sWDhBu)n1]-6t'r#9Wm
Q|fZC#OFfrP8L4#8!@y1kif0|-LsxoXVJFVupko1s-FZ4dJ&o&v@EsF=lG,)(f1q@>#L[*pNqS67-bIyjsTAdh(rZCj4;e>%J;W
6FXU.~fgtpl~P!&><lnlW7;CCzeLy;yPpIE(:a~!UU^9Ta|NCN0^i!'oSKhVy[2[@fhJr2wwWk<[[%$Jmq.RO4[hv!)SC&$uExX
b>]qRjw(N~_5Sz0KT2^_n3u%2G7uU]6|D,IwRU5#yP;p-NC?NL>UO&bH)Rp5]9b(xa]qtjaYn%MWn=6$)CL?%UP5<>Hf(?|^pp@
umpW+#aGKaa].|D3^sFqop9MGw)k$Y0*^nlKYV]vV6f.$B~Ehy!#!$6x]uv:T21vhZ:_FJWnGPp(-6A<wo&$-9Z;yr_^3EZm(B3
2c71LNyey_APLA1D.RH[,YUW*g.jv_RA99nOPpgN:e2#8yg(i[]Oxf?KR+c5LLDNbRf5F$70]>lgyI!Eu^!fNt9:JY|9eI*FLA+
q4Jk_CG_EY-sUvhxnTG)Z6~*)yNQQqX;JIHu+1RBQf[O>4FX1+3p<NZyug3QQ#J&D~?fJu:VT$F~Y0pn6d_+ct[>EKyBC>$VDrc
1JpO[YK$VtEbYil)'B(Pi2<LVIfd+)u&kQ%5^Dr3;m,tix#=]p)45,Vz?T^%&Ap=Xg-FMC@,B5T.-^6-FA|A=HEAmh$J?~y'9lS
[E5wvvle14'kk4;n:4ywOY!.V;TQ0z0!<-Qq,6F0E>.zziJQnV)jD*=379YeFA5h>n],fA%|a8u.a?=LeYuxt)-TL21oKbY~2m)
[G<#)3y,D(d!*,$r8Jrves#Af[j@sc5KA4ptCGO)Up+o![0y|g&v..*,c0b(HuZmDEok5|lgo-GBp,If~@%f!NL+5'41U'Z-dP!
I[mBRnAP:ao.3APK@=U#[;pqq'jI4~4t&^*-Mac9ULU&gz!+zy'v_ls!f4bZ6>Q_efEF7-:iYeJ[jbf7SuLy'3*tp^J+KnlQw^&
c2ou~Ai-yn>2A334ZHd9Pzp4sFo[VpGJtRGpXo~&y6;Eov)IS1GQ*id]vz%A>4|;2xeuke>%dAcAv=q!H@~[-c3N3!]Y=z]EJDf
KMPx1c1P1&+x0Aq;,F$P6,Ka+cDQOnRwg_2tN|ix3!ZFyzHF??(JSFr[w,[Y(7&:-GDLIu_(Ns_Bd[_sQS~o^gq(ee3^,'75va'
>=Ltv17,[GZfz[|p;pAJ(N'Xp7WzOlg^@V?JT@vqy^s*9eo%H9VS.*Y4;<8'_5YeV$2~'[5)6h:dX.Be3^jK;AvW8A=6hG2'pK6
Ag73Fyt[tsys7&F)Gm.XLwgoMdh2w(,-Pm2My(#rVE8Y@d!DFsiC45CB0TXY<kA~DK~,Y[Q>PGaIgVuxwIcF|?mru.$#)DgUfcy
SVWpFxj70#O9%FPS3]&@&%B<gJT1C()QElKQP9*?Su'''B5dwD:G9IT_f1'lvp)=+$Ev[+8eI|FPz!$ueP$:^&j>?b6:?8o|l:K
Z.Dt!pd]7!LE!2bW^dHV=Vw#$w;y@[T:kbmxq5p*|ya=vqhyv6hh)M[^0:clGCjg+g3(nnX~P@SxHl00TaFy(H~D,~h>cXdGh.!
=5LF1U3kR*?!qC2yr5VS)?->NZBUx2OQm<LII9W3*8,AiGd?Ubsl9I*I2;:]Enx|>fA+hISHL;NWWHU*Yb7F>A:HTiFXy%kL4|g
='X+N6e0ZFi69g&H&F+z,6pN1xDD~2_tgx%jni?-&@cVe'G+O$Vixza1c:qL@9HW?;!BO5E[6wN^Vx7d?azgXUZPojSULr+TWdJ
08xFuz:ktvB@;|cFG$h)f%2@Ik@Kwt*M-zdd*!i&R!3t[T%MDV~MQjG)o1T%m^m+PN]CnMPvIhgqM?+fAn]LPzd|+Y<=U27^3oj
d~Jja^k?H[4?|u^,x]&$@.dWi'l;u.NPdB4=qScup_o&'=.GGi]p[YEuP,Ho+FX~iq-9Uxou_++Qu8V?0)<M%]''(Jc.rP,E]Gr
up9A!'0vt<MtH(::AzueFG<OI9nkk'R+V$nj^<Cq&?t?.cr3Mfr6OFvW1D0zN.mJ6P(LQt&y<:xrTryRg=odt#3as[$JDI!&j('
osMm@!xrL@.v%>xp^z4Gv7k2tp#<.]n4l%]NH#V'G2?7Owu|m8940|X~@car:=u;XFH^];f+#6dDik^zKG34O_OJ-]pD'^025H#
:PH@TTRF3RenF5-'p)y&;ihoO;rpvsf%?f.t3Tn;&B>@,e[%aBUE:0$Kk%?G$+5>UN&C;2mUX6w~&(xvga(A$t^5n1v=@A@.?85
)|HW#qI#j#@$a^ojDA|%M|0efOqC(j)(9>(gqJhgr>xw!YlzuEkP>33bG-r>CLVZku^v-:3X(bW2YqPjD7w^I%DN&mZ)LG3Lk6G
=,(h11aQ%e~K_efr86|o4dky#j~=$=gu%_y6K<$&3[2z*o.[%s?wSy7Vp?Uy*:uulR:e|I*>a*-)Ypi5HBIfU'Q<vJ6f^:XxNIy
uQW$gqOhzZDlVw(;v#7h%(]~TdP^%ON=5(Z@^fb<l&3g7u[cUpWghSak:dDDEiik0U=?c^Dm:$FuKGmj8yK&h)I'(Iqe#SJyJJ-
fw1[l,cscuWj''n:ChNk5X?j'n&Xf_%8<LgQ(ate%|[DLcn-[.%7>ragFSZznnVDl%UA?#^uVA.T(D7n=r6K?MSRte??vP;~!in
FOxiO.GJ4@)IW[LXcWcEtR3mg~V~km-S(I:@@'cwA$?hq0<I&[iAYm]6E@<mcW[)28IoEk9x$sBv,>Fi1APaN.$B$v8CT=[M:Ao
PGvhJ;7nQ!F-T-0tRQ$hgCSWx4DA3:W._wC=j!@|d<82*U2y+vR54!d_E@?f*JK=3Z,|X%T>V'8nA^CROUNtyK|m!6|HPBjUwa5
z.4,8V72o9]dxwVRppoT,OMb%~ob7KZj;@>tLS^AdVDlV7516_q^ws6%l*kw_=.%q#<T_)S0cNM&HbAWMDY|IK&f>9f1S7cV[t]
ML&H;co^8W8jkXO|Z000<84EPLOK(++OpJmKV-#n<Aa)W5S6'MNl='BRq;pqg@i|m3IzK:4l[(&W)|4yPV@aRLhzo)k>i[2'7NL
F_tVR<(K3b0mlXANobbh]@T8l+24HcGb|Pjn.8VeB~%h[Y30=^Cgj*X4_65IX62qYcfUa1DVCKqV=InZAXAR0+Kl?8HQ'-Sx'?D
7;N$|fT1QtGW6NiwZr!#C@M_ED&97tx*fRi*9OXs=+h|R^T#a0Vdz0ex1fUR(.m7@~*LJc[2J4BYG5P#A!(4x;,%^s)?FfmC(if
&g:uL|~s'CRJYAmp:tB'495-J6Uj>)mC;VmzV0O!hd~2GHC~#-J=D,aQgT;ZO;p~F-X]xCS@WTS&8)NrOSE|#BcZo#(gHP*Szpk
w=mC?QQr!&_=$>C>.76ymSA$z>MKsRpyC-.zsTiiA+h'jGmYKV|6^Oa6n-0hC0ZWi)JO8V9g8#?eGx5s;*cWq7i35'DB[jX>xe@
YCgn)f(f>z5]p~w6@5k,vc4>V=l8,#+*_OimYqhIa'rInWge;'?vWTw_9xF5g'S;'l_,&tpy;|BA^JU4DoX]u;5<[&1V6PIeQ0e
8iR-^3_]v?9CC^19s0x;b>s|8IxR2hPni9-IrPGwBddJ9LnTwB9xHPkBXf&IX87Mlb%bcHZCSuW|aik_PddmYxG'3~5>drm_F?>
.1bqv7:)eR>9@QzZ88b>f>VpR3~AI;;AoYVc9%<m'qO2l;ZxQ,+z01R0;bL>F!8;Qwo44p#$DT?0BPVf@Y3J*S^q%0oQ[<y(1F@
nd1fzhiA&?es]S2NXLIU7Ca^x]UsrmZX[ql-5it1,EIGw~ilS>%d!)1q;B4Q,V<*+Wd?~fNyGu67|V[gYL*j45+XzR#|49~'|$P
:4]7BQO5#gaIT9Fu8m@Zld*,@#&'vhW,%e0t5yn2'rri>?L*@vuY-b|=Ir!^j,,xS#A)a,:]^qyY%2%SS+mjP$PeD>yc3~U)cz;
#D*Zu@_ECad|^*%??$P=ACr6PwctnUi.Xo7)AK_&!mJj>0wLCHhA>t.A:bVPC51!T6Uu?$!<lb|[aQI=$=-+slJ|C3T8SLD&Wk(
QN&H+BPijbuNjXS.~=6%*-#KU%@BgJzIpf&BEZ5c_QU#j|C,AWt:D-1&h9[5|>L4Bebq^+Qv5^D2Zb8*ZgdmDfKfD#%l#dP_Oi]
cgZ&1!DX4a+w[CCQHyQ'sOvq,?a6IB~xWy]3c9|>-YWB6f5j!gPA;:Z])zJH,fQ_8>[ewm)i?X]05jHjBk=Cth]jCO775GM~Ih1
O5pb,,z(m+$ADaQ,?Q%p,UhODfGL;IqF%vtI'ywRIO|e4l_XvIm$UiOO2KLH%=wT*Psy?8l<H(w~|sk.$Aid(?@k9SB0,yV9W3|
fNKpjWcO[A,O1CTGkv@h_NHTA?>BfaWGeu6d@@,f$|&=]p8<N@=8,b@$A7IT86h7q::4>.r5Oc@-7=tdD.H%ttYih>&[9us^$Pb
vSyyLWE)?AuZG_.X>r:IwJxIO'EQ#UCp:(3nPj]:~=+SL7c@Q#&T>R-i&1s,Rt:<7uq?^2*5-sp]-AQ2KvQB2FW]JGs8e@(snn|
@]UgHf'=q7@zA%f^lR24*#;uNX|eRz0RDLpYEU0N%6n3OQ(lTfSpQ^%HdkDPRb(LU)w@-2r~3||pNw(iFyG)_(Y'OcQXi@a(y3j
ineKSIi>UPJCPF.9cC2_O%KmKe.a2'q[~XGpxZq!JAPjfV+Q(*jJZ1[.WTIdz8<fie#V81ZV_~*crj.s,@JEIdv3Muz1BIFvGQS
D1<sS)|L.-l!Q*A$ylvW3i6!wmz!VPBcl3i7%4lg>UaOEJvgPj4b5xA^*kIhnU+Iec=Y^^&4Tx4RY!x*P(aVg99qzvV?Uh>oN>Z
0Mkb3CmHoL<+d!)l1m>Li.>Z)^;4eFte^_eJfC(ywLY]Cbp-4Z'ctlx0rV|ihv)w]z6^ESJhFY6_yq5@A)+ryY>H):w,P0xM@ks
PxOTV=yT@.2(@1.y$dfxA00_?M|H^DX31da9[*0,N,bA$lH[;0bQ*d>e57e+d#4#1;xjFt1P:Vd1t4R%IsR3Ly^ds_FrLMi4KM~
,_H+5;=o7]U+?0.U[Ce<wtxf<w'WfR>fm@D3,Yn#Jb(M?!3sKK-j4(M$O3lH&usL|._qho|T:8&+w#L%NbZ4gqqX(nENVWeN)#j
;6.?=oRAr6n]lB3cchP&o76G]X88a=um!DN#&mTHstNdGFfJ7*UU,Nv$xX3_@s>Xt]fpf8nJom8a-&[<>]wICObbz-hC0g79fYS
7~Jn@3Iy<a8X[-'CV5X|1;1U6,9^|]a76L*2]KoW_Df;*M$5Z*sa;c,Az&]3vp@HerO;LTpc)!+x%U^EV595qe8:R=D=9no(D-%
g]xESIlfe]@Z=w%!hh_|Ii(z6*pJ~KCfyY8AH(alm~Lc$^fP#Rx#bLB8x%)jvd=ybpV(<X=fM-|?7n2QW8q#b)b?|53xj%=hIu:
>~1:,IRKV>F;QhmfuWQ0yYy1dXmi+kpvW*h@woxC1cHrYSl_DT):g<>rS,x_ta%~jKUn;:Jo&P6vC;Kl$7H|s$&fke(G84jVFw4
5EdN%|ak4h%jlHWnz8,:xPoYMLRq.^qX[]RWsx+fhcrWb.Pgy?VwIc*2~DWr|u'!H(|wTTTcV2#-ata*#rF=zd,[oAgTxk3i>LJ
!eMLGDFCVd%9x92,jSkzG,hf,N9S>dJYuTrrCZtLzQem.]DS28_?NX:gdnqo<W)I*@g#&qjVw*vA5_tW<oFsN~W4gEIqzxfobUf
pnCKQ$9KO6NP2OjqC)y;4@D'k9hMc]^3a6tcFWRO[HfWDS@Ft&3-,hr+VrBE?_1xAE=DXvuLXCabbGE%aw$FeHn]tBw!KV1aJ=:
:+v*(;jzS$K#AWDlJ]1.A[8LEKPJa:[PEtY]4xWyi-X<nF$kA[S;f0Z%=9p>p$sN[iCM'Ce9G6B3Szo|++RRlUSmmWy#NGr5!c<
Girkr-4uh4|U,~~F1gC*4X=?u9r6z7MkJo)4ELLCOelm:BGrFpL?LE<*LEH4]bg5;;|=moQN^x8SdPN3M&K^,1lDd,f[hmSwgT9
&<XqDz&|?&>=QE1hDmncDSVR>Em)DF$I=#p~Wi1OzV>[n#,N@-mp^ug:Q.-MiR+#_Un'vZ1cHXNKYCvv9hfi'qtS)naOH0AjEkK
sHM5I]XfuWoI_avN]w90RdvOjqS?al0IV($1Uy5Ct?i'cA=su24:j2v+?plwZYa,&]!@j8QhsLN_f~vHXt5f=V2f3Dsdrx~1[Li
biRI^|zBV0GPf)Gpd:B[#V!0cb>qKF1*U8ahVIju!0&gSo.#8=@lvwkq=$Rt6@Yis?mWzCWO8iG!IU8@(wb^vfHO5Cr(S|xayqL
t$J,wzM_^goy<WM,Q]CxVcA4JW-5*^^#YCr?U%N%LIqrieUm*|83>~R1R@(=e+Vf;'0x^ph)HcR|QL4QLBd8>S=WLB^tp:uvMGb
-LG6mUccTo#mw=y2$GYj*EwgOK<^Ro[2#YBG,^l<4'ty5o-kD]or^,a@U%iODh=Uc7dBRxF~HVL7ndHu1gg27n<;L5(j;h<%m~G
8jVZEW4[icM875!J8E?aOfWSzML*_pT4dKtzU]g84ca=2Z0[fU^ZnT2|PLiCQR~|H0NnvG?:OQ]xB>(S&4l&sXI:f[xV:7PB:8k
5QpLVyiAP3kC0-IGNuPsRFS1TLGIq?hSHW&,urW*9Fu_kRX6ctAv8=w-uXv,$>m2Gp]tXc0bnDj$I(+ip%Nd)%owePB^.&2(2Lt
1,]nC8gYuhu=@qltC*xTqtaKX%9<f)k$IGnL=ZNKd*hYUW|#~|^3>WNz~x#YbZKT@7VGj+f#5C.OW5lkJ$+)m|$$Av'+'o7%H!j
Ea>e^Tf~+o2H~_([s9S7jfg$2=YLqR'1YRWf0gvM&@+rUx$?&@Xt9o-pOZV&!|W(S!7O*s,rS%'g<bBtjx)w.n-$9SH*~~p@eRa
PX:M^9o6r1V~^)P<g0R3qI$CrD9q29=i:p%',WD&?>PZu)hR6Y-6S?@S=U&sAU8hn9Tji6>|Hsh!Lz$klGXr.AXVX|rPl^^jZ&C
!;*K5QJ_gZtG>_%+w%s$UI_dGDDS[Mjz|fX1P($R2rIcAWEhQ<=R'>C3Ygwfml3y:#(W8qZ6>EYI[5J3KVyZf)-14*xs7G#f_)A
lHN8Z1*JAf;B>[0UyEdS%BZzIfnBKsvr1,m*Xvpjl#(g+60Mu],@%'Y=CO%_XGQoZF*:=N6Q13&0R#lQ*[*yw)t2>PISQk@t-t,
HG[TwepL!p?U1n$i;%q=>[iB(Z:L=-7f-V%H.OcAQtHm'?%1~JJe_l=~XSo,LW90WsPh^(pIb=%dsbgiUuXvk+X5smMIJ?z|Bq$
MOu^8^6*]E[THVl%v@NG5on@To>lHIpfbrv8KQBeS.Lou|2=O7*9BC>Vj)*LCM8Azen*#o1apayt<N=QysUU)p..SD8H&9U@>[q
OxmB'-lYBdff$tHa<8NWDhFhMCD[TOaRN'T:B%tC^rKQ2xC<(cxej4~cg;+C5WOO(lMG4&^ieBrKF:$&]UVeG0,4J3:IhtD+ZW<
?jWFLF=C?q&n~>s&!Dg@83#q$AH2z%BZY.BJW,ECNttd_f,aea,x+Ox$1#,l%PEMEE--Kf~CXl^TQW%zOgcIND]3qZ:P.bz4qCF
rKizCR'^y|JYM:|Kq=~S.99'YHI%+g!(8p==;M?_B2j+jha,Kan^&p'ec*W*JecDGFS8'<AmV5OO'hqoj*YgvWLn]KqyB%eHy^Y
osm(fW<xp_5%=T~!B]BK0iaZioLv@~nU~1#8M@QeU7<1d_5rAsB*pt['Ef>DS_H<@T*-=V?-n<iP:0pN]d3A#&lXeGqVxWsP7WJ
Et$9F2HB40tJR:&G,o#pyS|]=nGx83+W|aP:&&@9EAl+GdLtpdg$ghS'fQ4A3~eDm)[!3RRgL2=#F$4-pj'SGL*FvA]oELLq^Qj
Tq'=<bDggkrfS.F&.6aIeNvJ4HL4rflhZ=?|uGAO7rsSBnLA.B:h3Ju3<kwT-sa;<%fUuSvx#VC8v^b3!l]1y'dukJX-dp|,SlS
=Vpbd.*9M5oOMS&ZSN?~uYO%e:[r1+Ht_|47$DG3-|l:b$!-|m$=o,>9k.SQ|sSxVAhn=hn6jwj8n&IvyyUjeeX=Z.[Ln77M9Gs
v!8B'&v.tYu1ZP?V:*sc~tRurM)Eh'-Y,Wt.k=sFE@5Q*CEJV6Ydo~HRd<3H:lo-CRJ4WMHXHyegbSI:_F2n2#4mKH*2&rg-O[i
Y^DJW'X:0YjI^'GxHzq-9=yB(:Z(.9oa^92P+;O]1;P#E?^*=kNX[xz&+D:wlBog#jry)F4r;jgIJvq>*cB[Rw>PgsPNH9JK,5g
iUMh,'E*(GcBt-8~bO!#]e5|c-+:c;Y@ei1fv,I_$hd2Nz~XhLTmf$zfWj$rbi'M;wYUN%vLQUPfE7KeC=Pi~:,P@Jd4ca^gSlY
2]fiDMlMSOH=p@MmPW>)xhhMWBm'gq>8cMm6#Z+%5%9Kxs;h67$@28N)sF5~937<Ji;cOMCV8ORyf+k&^@AOfP+)(^a$<glh]_<
R[45d|xQBgLk+yTBJ]]vo2@I[_|F%S<cfK,fn#DK~ntGD|dtSYO1YQC=>qS_Jm(9xy>]%kUqt9.~OmX7obI_jG9ulN4g>p.1GNl
.i7T]Ktf3Zx7K?y,#o-tSEBOfGfy|oKWjDyabAPG6L5ojTPv6mvqnL!rnwZ=qBvDSY~K,p9f1dL6'Fyvh_&AUz<lo4HDe5[f+nG
sulTVUlGWxj:ZTAwO=no^C4keYipBf:Qy41StaF_eI&0_nu[JGf%td=81o(wRv8FT_m!!Bd$YQgt|#b*^2mMy](EX2Zu+:)rqmL
]s5!H[%P+->>%VydBy9V(|7_yV^+O|BD#e^mD90g<L|p9HryVK2G|Y3Hdzr~@gTrG^G2yrN@rf#*DuCslLC'LaMeLscdR;,fVlZ
MrAF^;v6+d~U~9MsU_xN@0_y%[&.Hcz+Fszn&taJHyN4^pl[ftz)z|oBuOx-^]7pmrb=U)JL)vC6@>I.Li.EN=YjdA~K)I[tjg=
Hkk]D3CrGoZdW:Tlg!]UuNAnsCMpP@yINV0;l9wW3xnP|Oy(|c(F$.:#p8u)X74E3ECQF4JHspW!mtq&psful.eZqvnrA2kU@F<
l6+5G<uf~0'99u;cZ*J_WAyuvA7IJ~x7*c%h>,Dk?YM'Qk'=h4]f~rlQ1bx8B]SY8aA&tShqzJ'|sfTAiE[zO4B8txTni*$OAM*
c<(&]kUZvA+1I~#DdhEH7wvk9>w(N+T;VCY5p;<~.cePbaIsg%~P|(AhizDp;#gQcX:Dpuq1b1lH_63lmh.F$@^u=+O@VNsHLSp
,s0VYhyR>6;Xuqd#MN(n|~[Z)oK;v:QF]2M<_:Rrb?,$s,n:^OpY*F8RuqjaD:ojD2e;!>eW;7<bqf6AIDh<=8Ugw7;(<[Qp-tw
[!#.2:~5e#OnLJ|-e(S5qGmLU65u63>z3.2vv=UmRwEi~2(dyDknmy9zn'5MG72~ISJyCA@WH#%Nd~sQmti?x8'U0;EP&GoKxW)
)qC!Rox6_S~1o~v%Z~#B5k[saEy[xFZyFA-K#5=jq|12%rOz-u[Ro4]9Sg>%kXfuG,-p.?myOXxPUx.(OvVMej,w'_sS,':I5w,
x&sZhXLlG(wLoL+%=7||H1&d?n194@uMw%Ai]w.wk#3330X)QIWZUO9jNWBYp<Pn.popuYH(elfZNk6o*LOf+7!wNi1L;R'h0N#
njSl00m(x$)-J_@F3e_GdiAQyRGaDUc]e3dL#e$.Kf,Q-b,E~h9]M-V3dpgPo5lG@yg#jKW#)EW:LkcF~a#kmFN~7r,,z05*Iz_
<CVviBi<iQd-Ob#H0mEt#v5rDR;WE]X]?#+E;U!9N8?d$zv37R28[6zfhC1LM_A;.E3AHs'HMCSgnPrHGG*EcDoZrgELSJ4x?s8
9+I|SNWk>5]qEc]t>-$>o7,n7Il[L2p1g'cQFzCs,VFpUN<Fj!~obsb('YM54,dEwRRl|eESnu&xS?U>_9WL)<2U&+YZ@.UiXGU
0d0<hCjO.KAY[)fWiV~!]1Z?;EXb[%I~(2#6.7A6*P=)l6G$D[(;<cHFjF9&<1HlRXj'8jbQn*pXjVb*~Si6X4vOC2^T!;;=my0
?YRgcubvyc+fRG]jYw]'cbML_rnVUVWQF7k$xh,r^>YnSAe&rb+??)s;7nxq-J;!4Yoq1IBLr;MIilGqe+q:eKsz6lo[A)|b1c,
ayg.!u_daLgE1zWt#&VT*th|)Ju>D';)Phjs6-7H~BKy3I%2eVO(?htyIA|wpS0v,;oU:0XooBfOvS'El'um?qqZ-HinRhZL#V9
3]-wi^dIage=~'S1%aoK(Ru;Jh$6Bz~NAVRqm[:Y-V[td?~Z^K8ZZ-#JjMz|LfE-xV)_YJNx=mz%oPf2Gr?wx90MUB1z-epow7y
4G]NBJf|MgngU0(%].QY%+]5S@2=7=Rl8~RSP4)2ue=;'7BT-<5~y,<Z:E|[UoO@kmft>t68FpT:]=WMGw37<qGQQpt@^a|f?vr
z5QW6UO4aNoy?;WG%~X4IK*G:[In242:lHI9*|MGwfgpBGyT3V*;l&LTUOzvIi^|y%vBd&6K8JF5#pBlT:kT_D4%z.#-mS1SsYS
C3a=3+vmKGb(O-:A5K>Bp)DcYQc(5I@IyuaVoDe;'LMCYhwbU?!7sy!vjobw$YGOxTcl*4GgCHm=+.4Gt+K>U48>,U,px4M(#%|
z)!N'MD~QB^tj:6T|nKE1Z]t_UqFDLz6tyV;NJd?RTg!0+J;DIXN^S>,,:%~|afgk2s#HI~k2kFn,%V[f0ib*+=));n_x8%s*(P
Mufu7ps@nBwj1=-sSB?MZNrq7@4*VIL(HTYp7o|L^utz7s,A*C?NQlsm(90,%>|A9TfN~!X=8$o=Q_yg.%frF_0HnrtxSj@Ey~j
#nvYkue]]ez3H#<l(M?g!y;v<r=%d&z-HDp=EcC>vN~Go?yeS*<_Iek!%UXxGqxhh)nkq.m'qa#6qPFBxrBVWEVJ#>Kz5sH5?dQ
ul;%mLjFi3@$t!x(YxRdXP5QM]6MxF7F<$tk:mOXC|nl)leKdsE_8<B.X^w3=vNjc:Spx'JZX&3&;TqSPD8jMntlc.ss[|S#p'[
xuYC3k.16sFlfq|_<Crt>LT4FsfWU]!]Ga-qYzfAx+,p#)CZ>l-1.JfsCv,r,]fN)K|ITbpL,D2Y|gagrPP~I.[;rFPkmjc+KS>
,>EFgog2Qv$<2*sYI3RvE>g^R^7#Js&)k8V'fOWCZc_[J>g[vlrvSu'3@uqf[eZsdP4y!,j~smlWsofrg(-$877oX?:2~'s*[%]
=!r&:CsF[|Ak^SSyCp.4QM~+Atyv)IkZg404X+H16&P&%JP:t;8nko5V-=i6Xpzs?hJKGP6W%:~8k<fU?x,~e'OcO^RsWTZM<rA
u2JCZMMclvwSKEmXII2%hi=b~auR_66pYB+y6@x(K=]W~[4^;^>p+t<B@v'@!%bnU(f,YP2j25z.I5iFBI2eOSI]M3blF9L]7~n
I7S'WRqxjyQ*Cz&lm'Rq=:P(P.'HYCTn'L'Z?uRP'5T*+#AxQ2?FJ2I&VbsrdBh(1<MT-?3W&?7)F&$%nix!+MrD]c4PW+pn59F
MeJ)j%!^O[M-c*m<j&gH4boMLp[bQO%k|O(jM[dXxchu*pMIc9;'u_ik,>+TbsFt[(7[@r!wkY|wa2z)y;qUnGwmr7P8M)K>:Pn
_G@wU#MvjHr6Z?yc(?Rch1ufk:'6oEY?bk%^]Oujuu]ZJ#Rmdk2uMh'*sK2UEZ[Rq*,'L_4HXz~nqb*l|3wfvPnnp0.?=M,+1.)
'I2@([(yg~c.M,'>4B:;Ks^vlo~7<uduFAsPCdGqz?HLd^$_d!*knLvL>!=G^uf!T]SJ<~P>8.Jirdq:F0R?~C:Xz2]Tjhw62*X
Q~C6k2;+P]O!h:DqQbE,mChfC4Nna$ZoRf?R9aVoB&2Y]4n?9T77qF]7.]L48w?9;dI4-;@~HsHatb>aCuH<bvH3T7u!m$>n_O[
e%0<Q#>mHAV%UOHOXjBsZHQ#0.*fV3-[h[N4Y-8se+q$Ste|l?yYikdS3Kq3Oe.!C~1<EZO,-y>CfxPg!kNPYLL'i17tU$@]G@F
[@YGsOVH,A=z>zy)GO5Y3j1_W^u#HMSn)!$@7jD9z+ZvlM54JwW<&e@+ST3v&Ib-U!GmB|X~[Hv,s$,!0h~C@UAeZ1C-Xw1f40N
*zCRJp8#uqVSM0M(mkn_aB>SxF:aL<3%u.8X#e'VE7C~qH1F&0fe3DCz~-vs?VI>Gm83v.i5:_M0,o'Fzwq_0lh)Qa#9ID5FM]]
N0n?27gc<>v^Xx:UF(40|YU<z]4o8(^kjRXSoccoz)!qx4C!fFy_,Un1A*o)aCEAzl.CIA_&[Pdv7kP!T0K|th4J&gVQJ!Y202m
+B~4GJ,-c3h],+<ax;G2'KFifc6,82)FtucY?t;Io^|wf]^7qIn47|FN&yf=h+Dmi3XEQK'fT8gys?x4qs;J]_(L%1'U+.b%C%9
BEre?:W7=CIB-]~a@)f<:E26<1lp2,(opHJyViZCoF|&kS:VRuL3D%zi?S_~Usi'Z=D+u97-uOvrK#X#@s#x+:7(E(ovZ<.d<H@
o5&1tbUYp)lcEZfmT,5a0fZi>c(YbZA5;,D[A+9yhCs$EP7IYGvN->hIXSY?!OS3C]_97GN*#qFW)awR$P1EO.cWJo]y&UscD?^
^6feQ])@N3J;V[8Y(u;E$;kd-S1jKgJ>@mbr+bT|R.)+U)<v)dsE[|+N.$]W![[&^fpbYzB[97N>3pc'ZC',_K8$$1G<KHr9r15
1$Q'(;Tw&CK>!oig0dGh)2Xe9t==F=%9pRc,%6LkS%cQ!bybIsxZnEds1<3wgmy.vwPvCP[f*&&#^pz^e*I;75'G&7pdRq][o9T
UahdZkC2:#qjz;.gN8F;_s^Qw7Ke~AGcN;QPe%FmRWgA~qxeJ]yU[uN8H;(u82IyH<0T@G'y0vq'Xo(w&324kT=;n%SA^Y?+S-~
)klO-bgHBVs1~;2~~NqO<'3VIF]D.M=;&<VpL-i#c*,G=(r'z'OhoX;xt]rZX0B@.T.0*cMXlWC9f,@YUzyeCwy2Lv_U>J6]|j0
RM:JPrU50:M[[_xt'D);;^]~ZJMTpHtX33pM?Z&M+Wb3CrU[r19iZ#T!np]^)Fc.giH~svy^~y;hK^W:mzR)<,oIF<IL3r#(Ii[
x|0?MhI'$mStq_PP^+JS[gm=@g(:;!>S.lpEvKE&Cosp+uM_sCou]gBB5rE:M**Kn<a@PU.zM:KnaV8^(3w1pnfJU[ebZBxX>ph
bhGNCiA;F8,_.cVS:BfX-#RZVJmAQLP@WI^NiNw>9A1-~o?zyG'.2@%TpqjpK;k8J'wVfOrY%f49@)K=6]~Hb[;PF_>w[i8_gpa
#%vJX3dpGLj+q9dbaXKb;hOc2@bG3R%#klUdzf=htSN7H.-gVsW<#BaeZZz6m;<LEx#Ixg(UV@R!UG,(J86,rY08rgu^oId]oeP
3@7_|=<DY1EbLiNR]RMY]1pNRt,gh[FgC(9fBSAY!1^F*,j-+]H>)_PvGd):5i<@JyDGT0P2c-nC[qIpZv<]T:lP>z]M3+J2o8<
@[z%ef-CRBt_!Do:e$:Xxv:%hpQe?qgcVWx359>OavZfW^9D2g6:JW^5w)3s>'bQ8VBmAcw_;zkm_)A5=MkVluOv?'6e%TV09H5
t9K3=U)3&^vB$9rAu*w*5P!*o?Gp%Y4Kr1pCbmK!~CAn,Y*5V_s&'o#a0rp)kAAZEYINv)v'_(QbP'K5Zr:GmHh$!@J%0)60g3>
1sZE&?PjUVFw9h>$Q$LA7C^1Rr1Mb5reyo*i=:Wba0BI.uL|_h0i^Yy#?4_:wwYz*G^%J[Y040NzNAAvI):=)KNN=dmll0Pa7rm
[m_d2N_sGwv9[:*j91uv?vuOf_^8UjtLZ8k(.v!:a(A&2WE<7Pj]-wGQ0.C(%HQ+EeJYZDE'4^lS8Qe.zwHPdcb4bm@qS,=%3X2
%P;cBtE[4I@[.EU@I2YI)A@XQZbq(|+qdAhIhIgi1x+r!T&J?Tb:qiSqM*DnRCU.D;]_cD'~M6~a|Su!%%VwO8'GglnIarN9V4[
|~Lwgfv$356GbXO#B>OWJj@mv3D4m9.?>^8Fb.w[l,DUt~W;r8ijV,W3I8t9oFN@JBi'nG8,lvVC~W4Q04Q9kfXk[5?2;gaggDy
~*n@|1+idt%b'7l.[0vtUF3|+8Vv42t75vSsg<MzOjOe~:.$LQy@QLWz:S;jN.#L0TM)upR~SZkB~4b@HH,L%=oDdTk6-6I0%|v
LB2x,6yI^^$x;k2TwD%;HY;]8!mAO;!xSUX2H_8ta:-ls:5#i6Pnal5l7Pl<fE*(G!=-S[5EE3n!r,g<<@s0Snj,:ZOJro]e->0
;k4B5Ynkt];5s<9i^hP+V[C6Ey~=]j,)^xZTzJtEg,TPZ$H_l>L=>Iatu;_RRZY1[70n[1R+5hCP3@]0*%Z0;oZUy*h)nTOdti.
]'K3|qqWcv%$!pmvFHw(z2or!mvo&Y!9X]SA'W4PM.OAeCD$>6E&lq2vI&nN5<5#=fnzUo[c@5$NeIi4Xl[L]DF,u0lJ6F6L_B>
PzFVsV|$]ssMjqLp'Iv-ZE>SU0Yu<,fb*YLzzq)Qpg-XMfVm:n@0:X8X%~gB$(P6OVW0vd9Xt,$b0:C.c''o4focn*N'GqAJn3A
h;dC_*~d1Jy]eKmMEhx0xn!oQ]Yyx2Tn4GVvb7~PCO:r6KlvoXQ-:(GeD';Gvta<u@x$aQya_UIvvpiO^eo;~aw#KwUBChs+Ekm
#?)wN|tTy3XRv-Ylr$1A)+n#qs*.#7ia(dNiDT;=D!_bppZ!8Qj?FRe+#*sRXTU#;Mx%$_[rwYH,dQJi%S4S@mo3Vg0G0X4Lt,z
s_FIDtNg|+L[cz|Eyt2q'(|5nU]V0|+fErZ2=0-]oOkWlNy6.cR1ChTgk2bf0Z?^9]8q!6($vv;nNVjIw5NUSC<!Sty=M8bM$Np
3FHVmEL6R2s^jM^CAcKpvEc7;Z[rWvo:X,|z3*7'uY!?'y!os26?SEI=6,5As$?05Lj[=#-cJ'vFa:t0lLmSJWB&h!.zV;s*;f;
y|z7l$uxjP#,wwXiAd3St.[3zBK$V]=-Xr%(6v[?Y>3kzh#e_spN$rw.0+p=nFr3O|DPIw)wX<g1hHI]PA;c,pF2A0V>M,|vB0J
65.HD.yB;O?@hg7OohFt?=$=vvHuVhE@U]6;HFj00L|8ub37D4(OJkSnMyr4%.p-T95>9,JGo|z@=$*Kh!?]q2WbCz.pfF0*%yR
GY<m':LQ?-DI'NkdzvGpae8g)](N8c%C73l9zD-!~SxQZ4>m8-SEP~KN3X|_[vB!^OSuh#*j:UcQVljuAwLvr#:@]mNV$xT]?Ya
eDj4roBgTJliUwkcBOEM;<|pK,'Nrb<oyQ*,#<Ms=V&roQ6]x!Xu$0:TwlmYQI',bSH=4A<|9Gmrw)C<i>k2T@m*Kww4?j3gmTS
RjvFP],H^)@#IftEX'^uvy%C<Bz3P+Qva'#V1xAMUqj&nD$T9G=hm2By0Ia-c#;H@FAZ'L;'~tchG~.F)RzA#[EOC5kCZcMl#(@
D*Y=oRzW,T6HRP,fapyZt6m(96-Po71]A0jfxMXrBoWXN.TON3pzOH3$2'EDvoJAJwSQs)?L=XFD^~HDqwL2_xw^rke|Q7LNMYN
J=s>ZJ0[$TDWDd#I&>SFYLAbaRvyqLH4Bo^W+4S)RXY2VjogP$L2]@(d[|$~Hl[HP#AHazC>?k|EPTVOFKPI?_-mZ6f-t+z^vE3
6CdV.L,AiNe^hI=e9NBShvFB-PMD''G(qQa]p3vpN[tp:*NFDKq|z9x*Mx*dfzaWjs1arjrU)bSOVEdi+1bMZ1;)_M2Z;cR(5Pb
Nuq<fGm]Gqmo!;6edT!4dbdu;$;4v%?31rUM4@pfd7C$[y@'Mk|s!BsnA-8bHJdT&)ox*w$%K@:dU.0tKNEVTAjRFer7PbmNG1,
[+sp?Iq|6[5$A5PIR<P3ACim4[6#xfuZTy,2,(5s:?d<ms7mzs'7|(I%$!Gw!)D:wH3[.JX&2Q|?(AQz|?K<hwc2RgD;W+9gq&d
G;~OiU-N-Ztqyw'u735-wZxW38NDW&XIa$y+8Y+!lE.7v#RvDc?>1UTgz[u_PjK8&<Y1gGBw&Eq_&5K4V2fTf27mlf8Whp;GSJW
Xup5NG*5!Uqmr;i<5$#G+D%*&[zl^6OlCnzQ<5b<~#Exido,.8I_-AbwShR=n&xWSXfHE'.aYlAw;d'&HRIgKQmkaGH?;$;K+x7
NxDsgYt<i9.,74;_wF:T^fMm><O1EG#XYS0iBRj'|B7RPYeb3U(G.^q'7#Ot,L$wpCfSiAKRPd8.fK&Mb,YLId-OiJ'h,ab]I6L
BcWg44~Cq86gKQ^TD3.XS'^UW9]%3[*e'V7,5e3xb,qWs0ecoFy<zH-NB8vPS||H%f6)i:~UWQ-,yPTfWA|IgJc8|#(9i$46idy
3ladAmC5lL+5:S^U7.,Z,g^Or%Hgh&>n#VI4Kx?YbEw.9VCwt%,<C,[V?COJCi3UP'F=[>&Mg&0h=_&Fwd1M;a~KlNB'_GPwFNG
E((<wb@wc%u;8&O+Vg-|(802K0d;nw)pim##*iS*8Fip~ZEgFX>&EFf,DYV8NUUpi;n3PqPd[:hY||Ie419L9>K5vKR?wy|UD%m
h9[aaHZD,(DWV~a*^:Y8Ot+bRI-lO<im=;oS?2fBZ.K0+q|O!^mh.i_8';WpB%^T1'yo<e[hNu*tB0Jz)4)r34+-,jF7~UBC5_6
H<XdQx(]|F]<A~)PAL<.7Jzqt6T<~_M,TQ)sw9~by5Z=zj:Jhl$62ozZ@,C)p?xsiDZ=%kQehFu='^F+=7FR^=2&rwj*Vn.+Jf%
J&5y=>dz[80lTeSA$#le2o7(.EB47Td6^NOW$gLc>#V#OSDm>jdUK:jPunQe>mhGJkvO;E7nwf>;;]K&!!+P*p,#Hf_;%s*e+;H
]$o836RY.*vlv+G2=<8'xq[(+fn3%Jvb%315ZmrCR'5AsE(r0njaoYU<*%4-En!vSXQPlEZ9V'h|UCgXI)uOrEE6].8f)VLiOxj
XU]5~iKSlY)AEFdtwX37rzpxsU#gh7SNV6yBt^=|54L=f6iM@l_d*u]~y8TJCZ~t2Ac4w;F<(XvuPmI_UXxZrYhV&bQff>LlxvJ
?r'n<VP@to53dUN3Nm~9S7De>'Zz%=XrG3qV0;Og->x-%j|d8#6wyUPEMCqZISdy~wOcDt:GOvmo#CeyD0CaL$;HJajP<|I-q?4
VxKn:O4m~?d1IKAgM7C?;!mo-8sDkxlvSElcOZBRMd>2NVjheGD:9^mA]+k[d$(akPme+^(FH2ZV0O0tVqc)!Nakr&N6-.(J+c*
76RXc=~;Q6JNCx'>4O]9:ITQ-~<UT_<csQ]n5U@Lko7IgACS^[EIDTMk6%V$;T)li$H1t1HaSdu_EtLp@&(8.cI,2;l~8ZVIYJH
VmZCH5@3Qd>uaQvyl(_QnK.oV)?ZPxS@CLa!kjxn<=-L0lHON6FeG3(]!LCM;)tlJ*&^Jw#hd@E88^m#I?&;RW<o2Xr?bdbiKgu
Ltqd9Z_10SG'F5R-L8_P>'&t'Sr4cJ-k2'r$dhHX;c2C:V2D>Oh7GSLla+fN>JfsvdR[_C51Lh9Z0?Nm+j3ZI21l.fZRuZkcsV6
N<oy4E5z,lGA0wqS@m76q~YO<)~jEzt6Z;LZ?4n35?B6alZ5te;)%W(8Q9UTuf?+=qBnv0pW%:V(f>^4o$F4'9HP9G0Uw:%0U5q
kK<zBQmQ2jCryaRax'rI@!l)ULR&P!6.00o)-dx)(]F0?ZX#F~lwkb8P[Na+b-p.[iTog~&l+y^&KIt-l!J^xsT^d<^STOQNU;q
~p(J|qn8?J;c:Uu8(OWHpgUS,Vun<8:,c$tGqx5nk[1w-~$i#oQvWe]Qopv&,Qf+-J2@Ni;2Dp?=PNPS~=P7$3zRg5Za>lUM(Vo
UDhJew5[(@'b1<8kS,#h(8tWxL<QIc&o=z^D<j.n<vq:JZaY2vj(P_P(P5Do[i;,r3&C%F*]%U>D6N9R'NWq1n@l_-yQE+rBug7
mAN[y!V=y-SO:-0J'Di<]:87N2-~5#:x@WJRwLsWOgdSG^p!g?-'kDGmn>~bk_vXfuaxLeDkXiRCH:mq!=~';vT3NI[^!)3wz8s
%ef5!FLX$KA0B.Hzwyi8>[Cc52(<!$(i<?_WB!R2u<TPBQ21'F*]qs&JTPTW5_qw.Ac;Fj6W.XXRI>||@ZF54q[m%x#4=uqy~5[
M|RzA,^@kYS-k&PAWca(:HR#6n]snQ!RwYY*K@K,cofn-woAM_~9a0+k#&xDf3|$P9Aof%hOu2CX*8Kg8W^!dk)<LlBoU9dlS3v
UY#>RoV.$*rN:Wn(Bo]c;J@Y4@n9N90PPLkj(78vn*<aUyQt9u>J:x(pNF:xbE6tPjRPEaS_u-2t[=iK)[~31BnShow).i(^*NG
0;4,JF|Z+nTq*(#FItfJ&vp-Wl8G''H8P[@-kF[+>o]]<y>6U[Et-V%DXc1c[TZ7=7o'&qDc!#79mrebs!iN)Y,w4,%u^nDXFx%
dUU0yHJPyhA5S-cH.Ef%|I9]_DUNq0';+XpXJLfw>IM|;Div!.QHJgTB=^v-:&PSQ0m-E!t7[xt2>fV+UF9bW[c'3K,vwmA&)I9
)6WL64EAb8U8ncr%yN!->q(&|j>Sb#w<7$Bdx[WjxV9HKOSA%3(%+x(sY7'6AC@#*8TThP!A37I-%6+k:RO4qVjv'FnL;8;)b'A
=y<Nd-v?U8e=,$Y.bF8$V;Vr85!Hj%OV9|,8&Ae03lkZ;.J?8[m?G<#C(c=(yB|)x)>|7))]ubgCPoui]OwRb38BO'RY<'NfuND
z-J71ut4U,l.kNi-ulr6h8YQfz8m_RKxY>]IR&k_:K=6$1tvUN3ztD+=<^XiCHn8=kU^@F?&:wvZ,A(v<_OmoeU:LFPB]i)NtTE
ynGJC5WulDM|,:M$1_OZ9tETv|<Q9L?zV4PsD?89n|(z%f!w8B?lK(nmQ9V4wo&P^a[Z;XsmzX;5Tpgp*Oiog#YrAR5Sg&h?fzN
hP0r%_o7ZrpC5TsNh!OlaNalk_Dlp%4so;C0FzWJ)RT,-!5HF_Z.gYRI@ksCwnJD=E-A@u$xs)u.l-S1;UKm0G5zmxc0ttaTJAD
jzkm%H:'*<$3#aLbU54I=U~gNew>I48tJ+Un7FJvVn|++Vxr);a6xreO=x?ZsUiLZPkY|wW%V7.vHj;ufa[>bK&Gdp&twXdB%uW
lEh1DF,_%37L<Q(;'FI+=DA*ldtyb9>w4GUzYTo<Z5G=Z%XzvyV<@rz(GC_xEun<gzS[>P3r#Mq|(JB#z)uTevZU-A>e#_f|Epo
h(c5-17WYtJ^1JWtfj+WK_T@h38Wd9o1SBm|@Puld_QRv[;zB#ARfjp192hm<hnV5ih[q*?%~'>x'kKprFy6Pt?)ZMyx>t7J[!%
*E7'mf$e!b816jMRB]ch<Q@zrFy:9qn2$Cg?$2|]@nqa2?_|:4*k(jTVhr.RRnBdn9v$AmKGY3B.o.*5eI,nIPOr$6D_Syw2YIf
B4,A|NJ$'Lp^Ed7q*H.QG[K9b#<!tChp.2-)66jxQ'$FRm8[KdcUp,|KgAc8N.r-_vc^wwo1G7Qm0!QDCcGrcB2qOV>;7*Z|q*<
4-'4uzIvahJ~I=qU3!DBm0.1yricR!)PB5gpCNjG~=FNXDMaKimi+i<Vgs+,.*5w%23sOIaxd78)GYBQAksj$jTT-VJXD#T:|&s
=uXVfg.mv$*<TR7@*+c~bFvS|C.aw~FJ7gTvL~X#^2Zz6JPG>-n)P|O_f8|NR7^sIW,4YY'sz,re5[CImfh;W8*LykHSA;DZ-UR
:cw+=H!NqN,>sU'LSm:]@P!+UU;.S~z8Gw=Su>;&m[Y_cVDRu[.a)#lLed<j:B0?YCm<y541l$tS$%~Q-|T7*]2(y+k.Ti0<&sG
@y+?!'F(4dsuaeC<FC8t_U5LcI:Y'hi8@C9uEzNniQn;YFWeO!e:d-)R@X~K;[w(HGI]&9ov]4vC@Rm]wr=;Jr2^4hGG<zQN8e5
qF;U0eYWrcNn(cgoO;#ys)ZTE!iZ7cr]3DUa|hfN-~(Namb5?-_tP1lh3#!piG@QA<Wg>6Ud'Pr5YFS3=Qpx@wh;E:<u[F~Q#X%
:S]guA&l.J_C@+D;o_eC9hqBi)9CGHA;!K0:IV:wPKdAXeDvK^1$5=Tp-tv.1qYzhz(p(riTc2)tkoOS>gSqg?Sz)auBSzv5.9E
I&'K!.a',25rWA=7dqy&5)XoWNQ$=WidagbE4(@$J3Vqj8~(+lZY=dIDdgn5g95=!Q8G9@bz%.n.w[Dz5;!0To]Q+Sl:fgoUgP|
oV1gW|'0ebvj#2|]&p|[@?HrPr'z68uM|KptFm-J*mC06^.lzghK*5+1Rds#M.rWn2s3aKaKQRpI4kjQ_<iL$1u&=.Foz<qwP)o
(pJqY@0[iHFYxc%)BZ2XRN^U%Ia(_k#zL=Y0&5W@a*qnCRfaZ'+!7e,T'DW7vAE7jtR0<Bk;E*]lSrs=JbS_r0?_Gp>Ci8RO]LH
]O(I|tLV!Bt:2b:_4GCfvCI8&-'07k?3EWPXIu,cr|Z*$l_^h2rN29sT^^;GzT7hEIp'?6tL@n=o$GiAlb*sV-:=I56)&n%Ny)3
+CHvBbzl;=r:i_nV)4zOeL['$<&|1hsyn%:YD((X(l>''.B$wy:?t5$Fjj_g+Acb-fF+$L~gwR'aXLO9xUR0)X7CKb;?2RxBVzf
l#$J5xP5^QGE-),#3&Aglv^ktkvS,vJDW0^WXWkhW]5I:7iEQ#to2q&>t-b~Z8[Nsn?P;E6f!qw6;cdq9<~4VdWdNnizU:'g0YH
_C=uK'&E#w2C^y5AkPOzniB|3Gqr::7QlUW:l47ixG<:Y>zL3^YqB!YY$FeN-y|zIgq?VN!zG;?h[&BsUF[F3Fo(0Pw;+8Olwq.
U2w8sa|.HhMYScF(54dL,g1d-h|0ReS6*6hBb1pio9]%ABJSJB(e%67>e'Zh;uPvbjQN'iD+s7l:Ov2MRGH9SpjWZ|0T40Y.ZXg
VPgo'n:hDd_zPg8tr|OZunZ7PBARvcEQj*=.qdEEc6,oYAy2Wa$e!KoC|[pGJT5RC&cc.-gRK+D*a_*~-ox8uqX#(8kxL6GQ:8:
d&Pk#~F:@L>Ay&?*E(k2U8ES=7T^F@]p%&mh21O_Q$c'^O;'f!J?JV$|V*~MjlR*OStcNb,RKIe>(HliO1p'6j_C70?(L?vpUet
u>q^w'M4#FJ4wWTxKF0hdr5<l<0+Vc1_NJ0S|(s7:jn~)=b$eDBg@Rcl_8Vb1E+mxHPci+gX-Ea$TYfgtCa#Li''3l:+i91ESg:
pd1^vpsUZz8$~&_n:4g;2Ww#iX3gi,]>K6Cftw'9:6p,O-anxE?.y%NkmGfiJu>:QDU??f;~!)qf#d6UU4CCToob!)6~RS|CRNd
b;A%!>]5_^2%7_#;A,P,4k$.yio.cYJ~nZV_h)DS4%MGu]pG|$z>9!xSX|bJp(JYc^=bS8[bP)~=6r[&7>:50Y'kX^SqZ3x+I6r
?.Bhl6W=+'xD^WTQ&7y=5YlYyrguNn=);_r|EgYl*PX8;mJ:f|M[TaF?sbLFarahG|^.u#n>(&'_!Y[Q-:vs5&jrD|E4(Jp>#3a
3q9?6][$dTF:34[7W7&!^1j3ji+w]V.f!4zRn~fHt$u3i5<lS+DuwemZcUJ.v~~<9>5g7VXMt0I?1M78.+Q*[2PZWj!jwfNc(Uf
H6pRBxO;by3Ri]i_*9O3|k=n[JpF(ntRlXNzJLkFykXXE~Vw7.ZMSA](vs7K[P~Aop,q)C;fT^uV05T:PpKUz_L2n5U!4Yo#Us:
f3BUAb8~mQ@pf84JB=cInBLnZM.N?@6Baeu1K6Qt1FUe=nkQr~mTMYj,F~<gk$zEIuT+u4OWC2;i[*L*Dv)rD~F%v?5XGwUFj,z
433j|$WzjF7yVqq6WO&AAR'u:E!LNYsY,%q>KWVji9o)m^!'Q1a9lt~aON&Rg,uQcdhAbC@>2.#j24Ka#doi'Z=LHDdfG[V6b>.
owp-v3?%Pb?[QA60sd.kP1ET8uRHnDk:sy4^lnY[8CM@:6Q&,mTN=ws??!27,OGU1ex3=K&;IhE!6XfOS0=HIFjX,1rs%4MDa?^
CIp=+KYcgShwg)d6evwH^*~V^IB_zYOk|#c6?=azk'DjwtIUHN7Z0y.&Zkia)$Sr@X+2@_GY_~@Mg*9&X[(u?*&qh<bg[mFMiCg
Wz@$5;y0z.Li8W8!e;r8Bs*ifQ-U!nuYe9JE=Eal%yV:0]LLT'BFPs)79^ugx[)R2S~Sn%vj-lJ*kxR^EmfgRSM=Iab~(%]k..d
2*54oYqiJAOPr;!]S-f$NB![I1=1nKuG*.-A#=vu@FnW+ds~vchc+'(F'9l&=LXWrIA8jN|xI%xdhud4z&c(2KB76Rw(@a=P2oR
30Z**i2'2=J@P+w=DRYp0u]w^;4p1x4c9gA,O!@aAUP<gSMe6R|QSR+ro!.Y8*$ua0)nb@nvEP>!|CK.Q=uQIth5lx_jkN>S@!S
_pBnk(Oc<)z|F-=v;+D!%|~R.Q|D]h-~JHPU,C-KwkBAX$l@@U!n0GGv4wdOj|6mUrJV7vyjP|UJaLEda:lbTfx#0K?[]RU7.rI
iG2F,;<I:PGE#=%LcUsc8@pboahbG6P9?<;wOwvi%K)2|lb456,z=hR|FV*ooz2]@BOYhlmdiz|,$RbQ%zacW!'p~PJ93M;rIlT
RUx';L9+l5e&+6E'>PVsJB1z?4EMkX[~.Q_[@_>V7l?c-B>nanA)e*rxd!d<j!h!972n?fDE*vcFW]_LNijd%vO2fgN|fb^C)Q9
;uig12cwZhVo8pY.N(O8pa6)_O1OB:NU.%?p5:=9(>d),3Pq%eeJp^*xHjT2WL5u^1:4qCaBQ6<J]sRmO=nEiQ]CTP-HEl]=zG[
bPELOEly7_(beER:h&W:;<|^'27yr1JX_OQgo~91W)K0r))VY4Sogyk=64M6,]Lg_q'1[g,iagpNYk4uHki9,g$;3$9]@uEmQR:
Royi!uXSw:n#mtV5|.'HRGR,:.Sv4LBnX-j?a#Sg59H5n]HDlALiVC?:fY)E1#OJNwX~,TJI97ZZ)n*4&47yuia>2E[v2bfuXd!
RQliqdgFXX~*8EPK97%8ARyf#SAzNRH8'!gnGb_HvD9tEkRb6:w'roqmR3xhNBIBT!uz#Fx;[1UEDO)>&[6G'?aMXPn5hjEyvk%
bt[Fb^X;=LFT&1q?r6K88euGww$dW=gPU[PsX'udNDPpHBdqD4J0BS:.4td97G]S|2.EqVSkxBW<y'pMvGCnj5oIyx>U%U]PuI6
Zg2AYKG|jOvln:pz*-@=Fpa[>KaY%(g@=d,9U|0hO3Yv'8|^_66DW1bc51U$Zh=1Lr-[UROj+fvu*qvwzv#kth)yE8gg(XYrNyY
;bPcUiaE#Y(T&3soFc9T27E$*[%@@<5>f&I[#ARNNhDh$H?x+dV@Rs#isb(owQ9_S>TV-ZU'(=ZPfZ_C&v5a1*IVS2KNfavJp4S
gRSFOpiX3<O3i,+c@dnH3WK%e)f>cYP6PJ??mW3lT!Ni-x)%4|SmZ?(:YUwZqPE|.4;7t_OX+=b@cPIwdH0P(osv;0?x[4rp)']
+wxj1P?K]p.a$vUnO<Wd$G|%gmigEjG8WT,dynlKHf%o'O:0ax^V?$ua8@Btkit?9$5R,OR_LJp2Wt+lsuf%u@>&@|N99:=_Y%]
=*>T'AEX[~<V+HzW%NpJhb_3TPtre2O%DS)4?7[otwvZyZ@X=~kU_%q^Y473YM?kZbEZFQ|#L$t_9*hRH,Tk5=#PCzEg:Bqwz%[
~j$B9SyB>=~rheb4|)u1:~OIwsOL,VVMC)r*5G7r^V=$QJ,;S9tKqP!n[v+#qtTdBQ>T-=$)qXJ)|uL'LWD'_Or<%6Q#yA1S.Yc
*uZ@yo+~@FbTgz1!v7>1a*>iJiVXb*xWgH(iBF*HDlASf1naLsZ4OgJ;iPxU*23(q_0C+epk<cbJAF?C9T8LuJ7nE6[&z3:l7Ny
$Xb00(d]2]=R~12>_6Cz7UrOuD:^fNn(E;7Xoa[c7de]OCN'IEsN?qznC<-&K<r'Fc11M*U,q2ro3I]Fa]ak%tk>?8#]4DXJZQl
wSq_tafxTc8tSl^b^#?o.YkLw?z~pUH9_iv57GnjCJX)fR=kT?^CA5n3h<q_nIf#a8jzcf+x$MgnIz3I62EzM>P5xbT>=3>[n7f
BdM*$@_r)o*:^Ij8W9?(kYKyq~A;R&n8LgbUnYYJf=Jgk($NgG+Y22<7e'GT'&=;JMAGw3dFEsu$AbZGLF+.Rrm|d:]h+^Z0Y[4
!MkE'YLqM4j[BXlTJ6M02L;B0N&B1_(NLH*$!A7ss]=W.82Qyt.tsxX]@,*z4-e1p_a%U$s_FoX+^38^Q6o5-y6j[DgF15>*q(N
Rg8-UeNyz?XQHdpMOq.bRUf-)cY>LGY_[%vE|GbjjQ:1OUmKFvj$U6@J-]<<?uW&U7xFX#eMPhnOIAx25]Hj-*J#=!nb3|0xqJz
#akjWt-;[cn#5)@d9#w[F.h,:V,jnoOyDtd;x4[RZFo~+j-;^sLem.oo7$sPhKHvqfKZPLy1zZ^|ZPLwz%5bC~F9B3B~,h#jCxN
=QSm^Er5k8FsbGJ*G(kpzb;Tix3bo-q2-y3QYddg.~?9X.ByfIM^pM@4,b_1fB~&R#b0;,pVxASl'*dg|s_muXh(fo.f^Vh'CFO
SOX]|ka00>O&X9;.ceAADFN|E^5Ol~j)u]9(_+l;~y)*z1R]QltL%O9lU0#m(K6A.2!Y+HaC;$-GaG~1KZer0kNX'8y#F;'z;Sn
>7O3syF~3TiAyYW9gY*bT@,vv91cpsF,)0.~+PcC&P_q?>PynSWEfhE6>5Io65_vEtJp#TxCm=dK&@%e~u.@|O6GK&P7rj;;rsv
w?r+5B]w;=&jAWdi|y&U-HDJ,<MDVR&ojMN<-S.xC_D>0zal4;Ib7CAP-fW)ZQ5ZU9HYBlT]-oLmi<=BO8BBLoNgHjw:mbVTe;t
YeUPVb8D^X)~<2oh,Gee4al2NTA(w;~hyI#1T-W~cA7tPS8vL@hWC$DpB1!&OR<qlXG_q:V]ZxF;ZMY|;byKFVS;K]oW+^22mb]
b:J02a7Cdp(e!GvL~F!AFd>i0Zi%8LK>w?d8A-uk#tcV+V<V*|&%F~?]k2[Fq<j^)081sy7.,T+DN0TDHi@fMH#UCC.a*YO#d*G
+KS^|H@0Fs)Glw=0=[&&^>bW|2!%J|Y0X32r)2ia[BK5d.gi3X>@L6-h~3y.I2a@qQ$QTsnAplhZ-8.RMo*h]B1mZ4i]EB?vv,|
=.#x:A%Be9BS+CEJJmG.-P5SAbkK2x9^(]oz-&1f#'EZXD]S2gDCx;>z65_<D,f^K#^luKOwpNAx-y#Uu1]AV5->t'WsMm.+fKF
O~EvEn0|y4|6!1-g;55wSv808CB4|$jtPL!T@7LwJ?T&ZaSIl,MN5zM~J6d!Q=Ib+sFG)~SL~XmZDWa46KrT~~o,K;T@J@YM+<*
L~WUr3'P=PiR$D@M0[lVYx!qZBk=tL=5AR+C<gwX6k)|dkJft0pOOg?!3O7H:'Q(r)[;w93,eL)8<eh+f|Y[*&UaUK|SaOb(oly
N)GtOX&'WnkpLJ:77(OJlU!zc2F8,,=v:GFNqsM<0q9N)BM~m~mBat7$N$49Mpk[S*<wNG)F~@d1BSc&0M%t:VzuZmltp#]5J[*
T?n1Pt2qoVcQz-9s>+7n'GPMG_|qA1PWjyrHENYHoZs|w+$>H)B,ilCy'^U3TxI'g],iwH-?]t7C&&,e7B||XNLIC9VYCb2wF.^
BnXts%_l>+8;:)JP:#%CWMHNhB<5Q~*bZ'ArKUf7o(o-_k$:CQzV)fOsB_)Oj@XV1g]x%03ozaNH.sF6Wq++|x^fa%|ro5#F#aE
2Qbv^qlAw4xaoV@iglCj<9k]]v50(M3R5pPXhjbdoi#iSC2(H8-*Hd(+.d%UXwCA@FOrg*%Wu:pi6.n7!E?aX:QdZ!-g+Jz,45'
Wu|K9Mn*D)n>St9sfyJ@w1[QpHh*$8VXjNGgp[g8wm$b(jeM4u^QmI0-[AZI~3H~:_9%zct(H]w,>MIy?wEtmSS@tqtHFcbA0NB
1!3$?$14B,B8ZHfl5lHW6ub+n5BGEtfCcc|pOa)c;Q#J9zk^Jml2@0*MwpB'gYJlBa'#O6x0-ZAWeG6q@[N~CVU~T?5s2E]#:X%
SiVeP3kcWh1wA.=Tna4SO<A6G+_c]+cFhc60SvIa<+KpL%i_3pZ!4xIE85HPA>ju0o]dq,HL&@8^;AYrEek$PPWA?L&>~-3S~Kz
cshxL%LRnUgmu%lRPX)avyO:Zjp~V=Ph|1(@M[-e*g0TKftVXPNoiX8Y1z;&|2kjMQ2$y[.9Ekr_R.yjX7Ok^<mIfn7PlNxNc?W
*H]2&3p4gLvqbM;iIJVHR2QSKXAiljPNK:ZrgFk_v1|TZ](dI54BVLtmvw;sHrgTZefit6r1z;bE^K2BplCYt5$O2aP#CPrTpBJ
wAj.9Tdry>2hH@8]pn&DE'8sn3%99S@V3]mn|W:^*CxG9WK3h(naQstl~.+:A[0*ZCO|%#tM))!nc?V2SzXLWDYkY%PRir]%Jmw
foxum,('qO2m^A0Pk=)<Psm~T;Ouwcpm#H)THy)#*c0GgyMX>R#v,n-|;o@RNn=Y&iC0@8A&|DS!IqhO5C*;^Kjqt:=xgfCaDcX
dflu$QnoI''n_t)n<YOQz3zQ+vl_Iv^2M^.|>5(G5c+qe*MZVwq7qN]dF^iHa'nscAA~i^wH9DFG]^587ld|hrphJk#yl=j)K|X
~mUwvu$pi9~=w4,6L)xfQ91uOJa1H3;B4wj0Xnttfkyd6RMXD=SRKB7*-A:>QLf?p0K<t7Wi<0(w5T=#tigiAnu(O%pGKY'y7'_
Omzyk7zSQMj?BjVcT|aJPIeLkMx^#8;=,Rv?BsZ3R~#bl0A:pVIvM>I9gdDjCBHS@mcN*X#o.K|2_xOP,p?A)BWro_6s7L)hp)^
+6v$?J1[-dA#hx|B<H7M:0_-2yFCR5ZJZ?FujvRid;e#Yq@TgAg2Zw)GX$(g^=*+Smj8>CxG4Vw,Wc'1Mb>)!S>wZ~(o<?#K>=@
Nf-E]mM@wY#2j~c_.!&EsT7VhJ,.3%=GkWu7vN[D'PG=iEB+X.hpG1+,Sttu,]luI%9zS|T0?BH(G0b:vN$XV%?~[nBn-^kYLwf
[]dK5Wu,~~evKTv3+;4T%Z<4Ww4.WoZN+C-Y1Xa9fq$S@bXe%tgub2JQDsK>&WqQ&sIIU(gruTu8m|M.]?g>IlI(|#9V9XO+>P5
*(I(=Iem#H7G2j.Pi!=Q6HG)tT~(?i9@7'&)x0PpK2'e'RRIJF_%-VB|khEP9+Kyig&0t.cmq&It:*7Cq@fI8b1+$MAnz,GRCW$
[b0W!F**PJ9jFD2x)4a1N269bG_eG;A|8[YpYQ>6;yb#%.;.h|](G59D<!lk&$*?*Wnc8$N*<?@2xySR;N;|Pih38gBgG@cf.9V
-R?ppmH&.F8t>lxbwpP1-0c7>.JMg!*;5rdSCx_act=O5c|Ur)Hj?wy0UW%DcfmOF>EUKp.U2&OcULTcCW+JB.WOF7oU4v-!dq%
b>)Er$bP<i7.CRUoAAGhp:1p|KbXnr_6fIFd>Bez-h8hF~sjUA0@|-hBz0'Dt;[pzY4RU15]ekS=zm?t.~QCS3~xac&joitQbEn
N]'z<XA0cZUN(JCD9<)ADvv]Q9OHd&u.B;iWZ5;<@@K1QYZHb3kBS0G:BW+3c8_3PG*~'JfPI@?B7Wom&unpm|R[$&QQ>]V!541
&kQR?4414Z3j%&yT?lpg!k[*4r*J^u(&38~6mE:u+p&vp)wj^qhly^fc;4rc(1#N:S28o%@u+x8:)wQ'$ET+u[>=qwN,>j$!afP
Rf%0T$z<Swr^sZ5gjzfrzf9v.w)'dMBxkR#~@x^t]D(c]KK:xn5HTkJmA4?Fg|sz_,;f[D(h.9#N[f>;u;Pj.SeSDE~1p$DixjE
f.;In~E-b-NL[m~9gT1X0JkASD:dh8sA8]s#HFw=.TB(flLKE7LIXF0CAoVul#.1m%%XhJ'|'%5pJu^rKOHST*3uyIYJzb^cj0o
4Xb9g($PkxfCiuZ-xPr-bxiSq9(W,%M%bf#<2Umh<Du+lrz=DL^QX4mSC*SP];)?d9I0>w)Xrf^W7:@eGj2.voU;l%hX%&Rt71j
%j]dK;$S#gU36Di!!]~p'H0Wo!R_Xv9KP;EWz2#Xnd'B#IKks8't[S+lk@bnUJP4R'&QX!;;hSooM?Ss;ex(%)30V0wIBjPj3[a
y9wC.(w|*t$f!83P%fNJf[Ym&D5?zC5Rd]WhUx?')pzM57%:'pVy0*Df$LO[ER3,F+ulZLoWz;'B5Bzu)F0$%AVdYcH1Gs4WX>O
F,P!jCd?ms5T)U>Rg5wRJDojBgHxcR;N>SSMZA4e(w3[g3nf2Qxb*N(k|%FA~#c@_rTOU1e5b@pbw0cR,WQa:?.aI2PLb(,j$#3
oUSX[:W&^s[ze%41s>K(cgXt~e@H_rhmQH,ihvPK3~OoNXRK@0O6'@l>*:!V^qyM+]5Z'F03TqRA$x~E_V003S[nq9<Cw7,>FX^
<jY)+1Hr;.;d0jMz1B*Ke7r3k$A1kvem|-::?V%9=!Yd3<ra83Alw>0FoJDVvRk@xI#*.Va3+qmQy4!m4^UYw.PeCMKbn.JoMhX
+rC0><:be)gT)Z!G&OivY@:u!u[eBzEJ=zuI1ThiJQCm~D&u@$[cG&I_<)U#R(-7b#%~G9jF3.U8dn|(mY$$b7ta[T9xoiGuXA&
Ne9seAQF#m,)mbYsWqNI3__1L'[JAF@.zi,5^R.5i'<X'c!YXNWWn_0]f12qV#=$=_+p1_UJdI<CEH[!5;3e:kV^NW-=cMf#U12
YE3h~-IFjL,<1Q(9GElH#PL0@w-8.w!jX0?'tA7YwTO(BXWv?e@HTg)CXhG]q6<&+Mq+3Y~&9Zq(B?M8epXwqTDCpw@(W%r7N^@
e!UvVo<nSkg]iq&]13N!A*6h*ni-Qju.j:J1HseV:HCFJAj'@Hwounh?zP<)#XEI1LR[_8MJ-YoG,OS2Se?LG)VjRBKzM]mt0q!
g7_Ib9q$m$)%sfj[k.Q5?zu&(aO+L0;%2=|hhw@hwz@]<mw#yzlWN3K>G6N_ftaX@|0zOLbkOp:zG8)6!-GsmQ(@'P>0e*+#&3H
~9;$nKE[|ry6oo?SN?dci=bC*w=j(,R6fw&wHa?BhQ'Yr:Y~<fU6e6S+B7T+xg7cW,6.yq+U_YTQ=,,S|YN!;EwGryQ6O<@Yt?(
K!BR5iQn(qdzu4.nKl,3QZk_T&,]v19oXfw$FonBQBOGlJ%n=K7]h!-|;bh<UmFq2S^f99Pgh(oe?W[~?^I>3s5~[U-34S,i%NB
!B><:]m^|B82c<jxu0EN=wbRf]XK:(zo_8CV;[e;Ag$:>PyU3vd~a8|M]'5SuOGvN9SMx_?Hg7B]XY1f8E_!z9r(@D.KifUl!.j
@bbC_-ETn:)IBA]clER@[h'A6V0(*u)RPIu9>38kJi4xw%4FGgsSMF4yN9J9A8EjAUv$U*>J=&si<,5NQ>o&RY+.hp[OJEdxh?o
O_iai8'9L=y!T7_8~=$_Yl)uoAr&?B&zF&uY+40Tn#O;u1EGQvRP>(Kn(h:_?)vl#%<q^bI^(<<KH+TQyF=>^RSiVb6*eCh(FB;
iv2q2!5&ei+-V!aX#_KB?cslhnA1+gS[P+p>JV?RoJ4POl[EA!rUd^j5O%^I~-5.Rajs<SlB@Ut)G7b0R1WL@aad89<FV1nkbq[
#c.n;_MG]ulXi)Q7OiX;w<=k6]o<7C&R1nh?J(>lG2'y6hPrOLxH6O4P]quEp?nog@M$JtB[h5s^A>H1npnvjE5%<6LX]Ri8zk5
[A1xRHrB03c|cvT]y)&ka,-,2W6Q-UNAye.9PvafJC'~>U&UV,ROWDw9_>Yy~KQ]|uf>fnT+mT7?~[ayt*z_:,r_cSNS-IpMm,t
c**9FE$Y=TDb_ugQ!>rdXz#CgucA|&dB-7%D|[*&<6-gs|[q68]>y!l:?K*RC.6S)(C9Xv6?:RZjv!,4VE5$L5j#ZFt9'I9$4W'
~Xv$:V*Bu.KvQl(F&PfB5Urg.Z+_^]iVMVx>>+uOrwM4XE4<Dj>6)#7ATdr&;y$4W&,JCUJqPv%9UA8)NZJoFfDKW4zeIvT)60T
qO4_yxs!mn85GH.w~#f>;$U=5s[Wn<FeUKLE0##,7+@b]7!P*@:vZi%Lw%?Y0L]?OjU=!I].W]:tZidJz=uKT@]A_#ME%p4+1x<
M&RF5les8h5Pfs@0UU2aOQ.<Xn'k>gM(fPiuDuCW1n-Yc'JG|YVzs|zr'y;>:RaB_Xk8q]ibKyQi1tuMu!aQrJQgEgWAnhaP'k5
:#|x.ZlVaOn_JTF_Izej8PuPsM@Y7xAqRQiVXRpZ]7jwHwK+R@ljPJ]~r9uVlQXYOg6(uiqXtzOI7TQw2B3_aYxM&GMbG~k-_v*
@)ZgA|u%#!oI7?Zh.DA+^4bh:#3f1gqfDZYmrTC93M#3_3aO.z2.9Rrb=ffn^7g?m]&4Zb1zH^rnIoqc3M48%.d0=g+P^|5Bk';
rHhwXC-;a%nCF(CyD2IAXKNWhNzh-ou(BLD0?NH(5=QYS57MLF>-0I~xR9FTyc~rCzTw<C|5cI|lT|#C'~02n2dqpE2micHk73B
IoBdbWQASM~.9:E6nH|,9@N*$1,e#4>P1>Qz7P0D,wH:7txW3YuMyre<x?wj$.VCSmd9lPw2;=au!oPul#Qu^[Aw]RFrra*]KSA
:Gd[xs9<je=k>*SR7gRqr.=cO4O<k4,W:=xt:ViKuIb8!vG*3k+^.mL|lZPkOrEqy4s$I*RRt(v;yH7xF3k?Ma(1nR(3A)3<nd9
p^a[vZ_M#F$c,&18dBrP2&bV@p7NNvm[pJ)rTM*hc6L_W&w#4yNWDbIW4a'Olcudt[eW%]^onQc~;T*W&5OazH<4+j[7uv8g(oI
?A9F>W;7LOO^2GtJ^a)W#5@y8<GPE59.(cpLdb,2b>jqTc:4DcF-I8.=zg,]__-*j|1S4$IR]xX8hlN!(lx]RKjNwxXAUMS=%]P
=q*vBzP'v+-YVeNR||2O%5@-'Y!)Hq0Do]1:+V.c=!Cu2ZyHjgPT:CAzN@^%iV@:.K;A4fEa8cQ9nhG6|%lc4#L(U[O29n%Yc-b
mzk,s)mJzaUF~?=%xK7]SOgn]fp^Q')>2*83,[1d%6Z,@KBA<PZ38tcd]#-c|myvv(QQiINZX4VN67D=p<qCqDU_6k#tC4Q9kFv
3|rN>JFlq-)$W9I<RSDu,sPhpc[d?H()>6f3Co>S+ngH<OU|s2;FkD'dYsX^uxi*_8luH@KPV.(PoV|>BiKitiZJc9g'3e)z[D*
U]Vv.51kB)Ng4LR'u&:0:Pg<HH+*ZQ!,xB~=lA^XKzv00w@V]IO&J*:G8lv;!TMHVxnJ8_0xSp|hj6K&9k,k;SP<x,u@6o^uYP2
1Y_U)3llT$D1S|5|#jyfizc|X@,tQJi$[k]1L34gA$t#|>3!cj8'S?fBg>zr5|W;I44u2r'D4$5fdt41-j3fwU3ao&ms;4d3kPE
VIE<%6<UodAuxQN&m[mjpPHQf?Zp#O.&84_opd]'Dtd:if]J@JGN5z0Yh>+r8SUitI5$6+gA;9#Fc!j#dWSTGyujDz.V*W-h$wC
x3XDDekK1M:c';JpGK@|*@ca~wBcX?YTet%2AQaS5z<T>FNse?e'#eR.?o!7c79uXoHn]V8hmH%QD1amzVp-k:(&h-t,IRmCTkS
tbK<sMrD=Q|)py0<(u]QQar%nIMsT|mc6c7ND)e<6M_@#5d$E*_5HQSQC$p0X_!,HlkGUTq>M.);rMz.9C$<-w&fdHWE:dk:JU#
Y0J_tH<hXeou(yMC<SEqGw#?hM@o3f6e~7*Q>ihSa(M+b267!I_iQ_jD|_,5VHwu>gONu!%PK-:qcc8]Hyhl,C%yjNmB-H[1#m]
3iAY^55O!$>IOMjp,[DelrR6hoE)10.=RgvLVDc$,ni5TUmR]N)q'VYA:)Y.(9_BGbHKR=pU)EQP+:hfzDMN_Ql'.tXXAc2]8>c
H&$vw@q&)u(kU5]8:vHE[:bPg1TSp|pW:5J4o,<)N(Bw%!X-3M(?m#mo+<;b_V+~dYV;k4FU<b7!DE~%ZWio!d3WY:8&NsR+16Z
6WuO9.i0xY~JFO?i19V6~v%U)iF[]boQy@22To9=v+aOd2^cNYu:]B>X0Ru<ZU9$C&3BhR&BMYX30;xxNuF*&(:O,lxXER@vn:e
izu#XCT!=X'+~sbbCN[MrLNMBVgf#5TulP!LuCuBN?8KKwF<t)a~6~!Wcn(QB,6bbMV#Os>f%bygDgT?Z~*GE^(>::kZ::Dp_Y<
Z%_,EDrx@>g<??_|RYwiO'h3*-[_W1=fFe)1Iwjc!|foks2^,.t>A8ytkf[p|grVn|W.;68B8-x)#p-9!=HQ$?Ik)ziA<bbUAy$
ANs0HDT|,#'^dxp0i[Wo$Xgr6q%JZH=mud%Oy5O5'u,z>46YyU8<v#s>YDscy~%AVB,S:xLb9Mp>N1[nL4GAo<c)wu>$ulYuIA(
=JLBhK|;+nw]WQpaZ9wvlGB0pA;AFZ1:zm%1p]*u-K?HreGV3WAN.K4o,_MP:;-2Sx-lZ2z0So9WIu4J#[h=g+Bf3dSvHQqDi-^
Ve@5vVwtvF)47-i(sf=_v38H*cWZgQq<7iJD(+Qo<o@O:(QK)l@^Dmx8'[Mf@5.yiP%l>P5'6+n%hSCgBYa)KvN]0vt7?To7P^h
LJ5fa5~9>3XmgHoWw$eFqPYJ)zgka2LtZox?kwU$.K9s>K9T7A@zUn=+X.[JJ[yH6co|H:'o!h8=aT9r4[+e|FVTF1]ZM;cFZy+
Nt:GTC|4b48nj$gvDPsI(;FoSZjwRtw^+VZvHjww[uZD,Z|4bjTB9t0gF-6ZEZ!dOn<DM6XDJ2n9t<|vk]jaM4!7,hx*k^RvY-P
)qIgQuz@(_At|,L0IO4sD+Yo3tc!E*kk~YFsk'|OL!nog~QVP!J2s4HZzO?U-kZ*m<'2-^T%DHn<C]&N]xUxWt6Yud?p7#eMpr:
V*g#b-fn&_2mp5$,UhE5N4Q$T?HySkL)o:#R9*>QWGj2K~EECG&WM5q,pG%_ExDXDKqZX(w;-&iR,E-Js+yaS8]7yQ&gm8:M1Ae
ot?_5$,<Bukp|@zHN*7CV..>]|&(QkH+hi)hQ3FGK4DZr+5A5:32*sHG+sBtw<hCMLXF;25@OGBjH68_ex(po^!G2>CNy.F(4%;
E:u<F_RE?EZx'|~=h#5%tX[d@Nz7XH__U(dM(3gYoUiD(6I:2&Y]H)!EDfe$_PM67bM_I~Y,^CF=uG%T5CH8-Qpu)M(6HoE^KvR
^tJDmp'v_tmHw%RJHm_|O<ELk(H:Tx|Hxy4f&[M4Co&E5_Zn6w;Q.xScs]IhMX*J_Q);~kDYY,:>IzdzF+ke~#>vin)%000@QgW
Lx(<uC2k)QHd+PXO)67Rr|*Ak3HxsuQ'-9AOI_U^m*.PrMGF~eARR1n71~vkA!$R>A,o2vQL3sPXuqUIs!~0yA&G4z.CD=uJl)6
)rt3i~ydmwXpoqkH[ylUMclhN+Kd1BvQ2eg5i)07l.K!5?$xx';kbHi=@=dBf~o5M[[>Y<zv=S3@RWD@97TJT[KB@^-q$Zi1.=:
e8j:EVtsQQ,d!mrW>m8XAr4Dt:.vyQynrMl^Yd%N3?UvCLD+gnjLhqg$4.eq?Nh8te>xt|bR7R)?H_Py667j2!(bUzAtx6KoX;Y
<_(,9Q2,8wP-9e>&j(nN=Zz+KW$#Ef8Mt(&]CGX*4laI;<uPxIBwe?IRZ!S<yXV5E'@ga]^9M&zGq$'ex1~B^ih(_ULt(M5*ox*
N]R.EGX-zPe%9bGC?V5_S^nH],0z6S;<t,_UTQ>5MP|n)gkYLwraUfM!_qK_F6Fu0=ed3XwhQw9*9&2k3(mNcj&;R7.y=lyCO&$
__tK9?8G1OA;q2s?rw0y4BjyY9hW+hHO0+>o(zbe'AW0W8E9EO]w4AB*2Im-WFHIWrDbeRYnp!;jzkDNpY52#f,O!M80m2*^xGX
1$<-~+^[HVk!4qE-X~tyKmivUBl~dWc1wgHE,W:UUm*XA>1vRbU;x,.NT*t;0%Ye0y|r[6:D$Z6zfjS+K]%R-udeTha?;q|~j&+
M9qz~#R?%hoQHne<u!JH'nfP_N?[3.K<x()#sYi0CXi#c-$FJNyTZkoQCCGHqwb9odsq!-FEn2X1zB-]ifdF)akD&s=W*r64U4z
siv'I:*aQP[-_QSIDV!U0Fz,TG63BOZ.!JoInEV(D-:.zG^7nR8-dUs64204?Q5RM9i]81?7s-2eDMvm1:S>U?~.V[]+Inv-WR(
l6,d1<qfbrgHquMz|HhHZzi::E-xDc.<qdBkFSFW~_)#wa^?!')n*#xET_Dr7Q~EXO%A;4XKk2L2w.JTmkY;O''6~6blERG=kKH
s<AdQ-Z=_4dgkUXnBL:IVpDLcA:sFb$$3wz-Y^AY:M,s:Wc,|nLFXs9%J6K!X>xwe>|t=X#PxbsV0]d*hb:+k&<wh*g8Rh~%1;i
3fm?<TXm4dY!L47Go32L3c~Tqsoy8j!zS%n'3e(p>O2nc=FcUb0&:HLFoVNZ(50_$yBgg?d8$9$:PaTD?~*,;__6ENd;sl9%ub8
xozp9GDyb>PXpH%~0N_,0UjhO&Y!?1W_efBQ=CU>UrD$OWcklI]g5i#6'D#5(:0zO|?1:|fUJ_?OIn=8h0tA&M-_pp^;<<6k4qp
lc3M@hl^2hZNy5odKSM#[Pj75XWqOEUsF)!@u;o$Gw8;PFWPRyM;])[SheG28Dv:xu$|>^ZA'2wEKcL^tLRI7#Unn#:bOxqZYwc
rKI$g[.]ae@=IDqXACMsYL@Ibd0xED8x,FQ~_7-ghdI<NB^W[4y?u].9~Uo)(~b-y6K.T=5g=n8zZ<v&X-VvVXb)bYZA6v=oE2.
rM3p<XKV.T;5<$5S5_czpdkPMji*z15N%E$PU%>z[w['P~Td^w]k'Pkg^a)H^p;]YneH]Oif~](<3CXLsY9M6B$P_ac>$Zl$'[n
DVwm%]i$!'ArF--BwgQcF%EE7dNoC$vw>bg*mV~LmSCXf#+Q;E.s0,52GB)-y9VS?TfNn$Y$z*H?)Tog()S[qRwVTw:-Yi(^9X#
%]j8k!As8xr-7<gs?:rRSr8S!1nS*F$Pbnj&|Pl8cP:v60cDC6wMhA9&je-h_:d,iayT:x[1iL4Ie)S1fE[OY1?Tj0F^Ka7d+6Q
yOazBtGjxsl;Xy.Gju@9y^a!oHa*qeN7p5I[t%A<Mb|vd,i[o<1QG,D|zrhlTZAVyyMN%o&m'14sf'=Px!pH?KdIH.jfSY,[p!y
a0d:O'qfe*<Alj!t_]rUKSl(=6]7+-L4g&Y],0?na;6QBnM@L$tHTjtad6j;s>Z'i&zNf5^C+7@XGo@Ox:fj3&u@v]t<TUX9DvW
BWcn7^!R@)4KNUVkkitAvQnAMQ$kutw&tGUA:eiAHtt%~-Kz,tZ1~M-CjL93$crud,+.z>A)!brknH$-(nKx~BQ7|dzcea_0vBk
r_R6VW@OYV|?*bVT9<wdVH=BC3EaU4X,'SFa.VIWb,oshv2njk>IxPtD19f_f553g_TSK8+?_8U*Ku'kh|_x)wN&gQ6fH:Sc)be
ze(0V1,_l?Q?O5Oz<v]o#wwe|IV):V+.Z@ok2A|_6t!hONIZ<qrLC0v>I33,gAv%4OQF_jBD;sT@S4:c7<?2*,0;&tEaZrul7;6
xuxMaGJ^MEHnX<G.%hH]BCzRpGm;&W120V^Wcj!h]IQOMLWef-s>cEkk<l]$x$1o#1[1h+wy~6#SI6)(n@)('n;<vh?C8JFYIxM
TkAJ:!m-@62Nd'ww<F0-n,O~c!wDsEt&9oZdW18ODJjo^UZB<'xoV7~oWi~JnaV<D!&0NC#n<VWm[YcV&Ufo$~s=jA2xehmGO)e
|!E-mW?Py~v13dA2B~d&8FCG+n_1Gr$;n[rBMmTS%ba%C=YmFqB<F;ycrIBf|I8S-^oeX,%kA=?hao)|8<;Y(M07C(*<CS2nG5'
E?T0,2MFM&^H)&u+,5i'-5Seb5T?nwJS0-L:5-a%H^1eKR?E,:kTdg5Z$xd6?|4Z;>K'XAdB:6'QK^jLJ~@eR#xWK3'.-wFp57t
#LLd[A*IU&Tzb9m6l-zQl&^dq:hcyq;!TW4r1ffW!iY8C]aiW3Vy7SV#D#F<IXG-R&7m>Tl|;1SpmgT3FzD&QSNw94vfU$=2ZbZ
au7K13uOE@.QefXfv)y~fg]tx#lpT@>&&:go.)!oVF6i]HLb#(fIF6W=z*>cKrIyONT*q*<I>JE<YK$ee^W&6TA$Nn[PQMJg-vn
_y*DzG7kMza]igoxg%gpaM,YQ7N-*,005cKYQkuTL%D+ln_?uGHZ9wL-EUqSBo1R5z8q#i0,vh8~;t<;srE(E)L0djV(]!A)O^X
UfGuk.ro0;t!!D,p3][UC&G|gv%50PH$KHjga2oz]=roCOYBi(!7bxiOT'5F&KVVB4?Cv)=le+Hd3g9~a-)F9-*+FpY-(^KKnfh
FaMA:|f'&fuG$1_.itNziqq_ymmcj%~=7sEA9*Ar)&rlJ<Pk,j#6u1K%+LRKL[~ET.r,'&HO!dZ1&O>a.P)GXRu&hHmm$na7.^S
j?_AQ^T]0^7Sw2R$[H;$A7,pPt!E;Vh?V'MZ;$EEyf.gE?jhvdh'G[lNrciAP?RE8K'')H1$ITQkMxQ>w8@Rzv6PyGU|c8^QDjT
4:^plfRsrIM:fY(hwwdpmg;b51KGMC3%b2VBKIvX)n7O3b[n|+zQSD0vzr%a_pLZ4.8BY1=i'>B]YOK?O~#:g!B,|off8w-<'pB
V9B3=9Pb|Hba)tJwl(l&Rb1+<<1D]xY~U)tBf,^sbI?+6w.1b=-W<Eob0[dq7y-93IqAx3B!jl]jJvt~-y.XIB5%~N?ny*^[F:x
Xu*>y(21(7w-(J5H6'ulE?k7Wz<BFWzJ(8gvtIJDdA@<VK13whPSD)KlAlc#g;5te9k-bJsq8hw>.=PkHtk7t!Adz5,(.q7NX8O
.E@)+dA(_P:CpG,kPcayMGaC(m,8nM'YQWC0Nt+M-mhzLu3_Ntn|boCYxuGLW]XmDSMGy*m9He,@nR8BSNuNQ<S8?9g#z:*E|W!
v?a~o+QM@#3iv#|9B~g.sBEBNX)5t-djmmXOlz*;w0|W%::98p~'D':J$U@yqO.]nFAN@OH('Dy?3Ouwn:vEn)cKdyWzwUCNW.#
3748OJu3iP)mcTAQtl?,Ub@2='Byn2&?MhMn5lszC2#@VQ]>>tU[0#BU#XPzrFP2354pY+y,aOL5.+EffRq*Q'cMVxlOzL&*mt@
0gM)s65X%RK.H^wK5DuI-tpU8Ern$gy>H9]lk-Y1S$OTH](qA()_=ka!k#tFhg6#z!y6W#9GiFN*%59l1>BgEtdtx]H?MR?oqaI
Lyfx~gS$Ws1RyS+=5jZ7X5;UGIq3&x-^^]h$qlL3Na$^J51Nn2xe-Xq?4#cl8OI:vSi|)uJxe5Eel5*r>xLhzykj4^BE_BQBDw|
g4Y3=w%cyP[)D5LwWqB9|iV'EODq&~J4wfhpcVOVObz]MdpZesdok(w,MKZ^|&5SxlmEUw<YS;g'DXw<'V;q63>UY]#RolbM?Tc
qgpq*|7#Nlv'@3=QS&l4+T-.OY,(C#~OkA[b%UxDB-H_<*Th0(#)$!7.:gm$xfo(.Z):61BUCVOGsf8Je)aUy]7ZqVY8(-D_E1q
G-=qv|=n[p|]$jlUW!D&0O:2cUefQ%HkXWq+^.<Is1&W<Qhev>Bn04:wX[Kn1t;plbmGX2V>@@!fP3:C7gDp,<o9Q?uXMv_H*YV
1NA~2]f.n(V&*cYm#$sg9;'K]#zAxs1C]&i<~Hmb=6a~Wm:;H7vA7[[7_iix[=x>k2F[P@>h=yC^gTgoO@c'6r>5Qzqd^FC9|dm
B&Ps6=!sBFo|Oy%~(WCekW-w|^$HDxj7mYPp)!0JoX0*RJf)mY>f*EV%2ldF2C?J_!ywai>~D+@0rT;:RV5RZf;vdh)m+k5M=Q9
ET9M4;)|lt60S$<[iwR_HSO6<*$iJxYRGp#TEV:@Gh]3$NyCvk7JT1atreMG5SBm9b$pA-+k-[syE4mk][O!2hJV)8X@Odp3<@D
lDNaV8Z^0h]W)BNfVT%'TDZmFoO2BhjRZ~_W-cHx;-6[j17D0mO+SzNwdc>WWQ@JzK6Kprx)BQ:[qas$GtL(-qKaWC6gb]!C0(w
Fhlz_3IJnw|.?FGLK;pd=Rnz80^b#(Vg7>pD$i[7>$Z^zLzbEjsI#Pl;%B%3tqH7G&o$Mz.iJJTS%VCGA_Q;PTi]+pSC4|(L&cY
>j2Jc[H#cGUrU]xmhOT1=Yfc_i?OBPAWyZG]AKQ+#4?r[E)OEcu@Sa@c.HzJz@!<O@w>E;MaFs5J7'nM~+l|a^0HRBpg@f#RR#k
9'*[u1lfwTGOR*j6CYU7-%!st2j1h~GyvE;v^t5gxm2enTEQ??Hq?jf&75lF8n'5mm|kZrEtca5)y3dLmjOFsQFpZT5@Ix+Bap)
qk!)#9;%8Us^sRKO!V]=MV*c8QDZYC>9^d*+lp~;!Vfc4p$~tqs~eFo@[oJC^NL_UnQx.uu![0(m9^h>hE3VLj1YgR8%11hp-Q?
uH'(f-fwe7]7q~[Z2_CVY>Y2Rcbawjwu^#][9+q:.hBgcXfu*o[)(9^_+ZZ6NtLI(=DOo~H^_f|]'%MO8q|)ZPQox(]bjUw8d?9
W-K.Dw0_u(_?>J<VE?:a1ehunVc=ooL':J;_5zU?=st|4y>tSVf#=(A4yBG!:j.CDnks61lTGD*?IcdMl3$l.m+^t2bwlTg_hmt
@3a;v=ieqs=]9n$(W_[J)M9gIGs;O]Y=?EI-K(9cOklC!GAerB)s!BV4IZN%[y;B|&$4Br4acx-h0V1bNl6[5|,EzZmoFH7@;q+
F61hQ[Qr,78@JZB6X>MA)8$k3_aF~z[ImABL6Xi_XO-IHv2#nk9dd;>;9,3G<Cf6*~FWr)Tx;sG0#HJN>!idHC=rEu21eiq$mG-
|R#_JQ!DJZCMa[Y31olT5G]eD3cp>p;8UK!y?D*2(CpyC_Qv2|d_~0z@99:jIgoCMabap*[Ip.rd6-gSGXC@P<:Qi.b7C.Ar]8~
uo,$H_wTmyVQ$!7jNW|?MI6Wc>_D--[*LfUyM!Jf[DBy^U1=5l=BRAC[,bs3<t9]m(2xb*=]ldM+RQhhG**(0@oTHM1%%w=FOFA
PA?-mg=QleDZKllc?lBL$_Jn<<QPK4D'SX|nLdpyg#E')IPbHS<4-!1CDUbT(:*6|:#(x>7KPyQDORO%9EF(:L0e9pd<moG+*&G
hO%5i?|F8JXE]n'FNM=remv(-<1K;LP[YFNsDQdqqTrW^yxpp|,r*LO81ZmV[q5SYpN'=^:=[.i<PGn]v:DL[:ZYPFiAAq-x?y;
Zh1<P+ixj?Aoi;m>TE8Jqxbt;*iA:VQJ;@j@oF-l!><8!1HZEKh9Bo!r)^e10C=Bb))W&y&),yLNq6EdP#d^S>|r.By-E'j2Om~
Nq8VmZ?wqMkG%)7$GF4SphiD|3x#EMjzcTJ9y,2-z0'Rt#HB_Zr0T25z*KThlqpDsmfx('tbp~[3~-:(LJ;rP:vaUvkcTpf1*-i
UVC^W61z?<2P@Sj.7N#tKofy%[<YOeK)Om_k>'^_I[mxD8QDlBZ%O^bT:ogZXz$x9+$@$Pq!_2J4TE<LtaukOFC)@Tgf,X01X7z
9sk#gMk^4eL$>&)_z$]y*,x$olp(s%vFQ4mw)CJH]Aur1Pfrl9fy3K<rZRYZZcTA6ls2X,_-iotmK#mm,H*#y%D_>qOZ1j%-pTC
vO49e(BZDFR=yGmu.F7GA8mzo%ve1]DjBL&~0*jZkFtfVoa:A3DKk?:2!uqFfi;~_@IN&UK#s<1?=RFBv?VIW;5jTAC.%p>8xp>
:]5eD4q+1b]G]=n,?OATPe2CM4h(W|xprF(8c@5).;5S-v,._0yPt_*zr)dxf4^=Z'G!D%l8T.&W>%t?$ak<*CF[hK@<OMDGQp!
pGC^0Cig1t&Pvm+4MGs27:VIPh&O&sdxh)9YA6^d:Q?98ca>YSM[MMg8h65rsu]jOhE'X<<RxH&^:2PlRdCk%R8-4Q%IiT+$OTA
dzO_LBoBoE3~#K>]Mu#6O@!*DItP>tD4wM'[t=vDtCQ6fX;$[8@wDdsLN]x*z7w=e[$rO=Sk,)AI8GZ4bjD3X,YwoPt%ccv.'[#
@v#AK,RV.@?5s%y-+eaDK]'~(P%uN[UL+f!Y#?=w;|~SmL^-Wu=rRT5b*!yO$<akT3@76@jd=1!,jwNZ2YeMe%e:IPnFN5@s-Bm
#QvGJ*00:jKV|(T<nV5RrRn,$h9(VNMK@m|&]0dAyPc8NJ!7U1_I_Qkft|uLY4p^t~-.ygATuH?BiY2c-EVlHWJ_~P]Q#k0TgyE
DS%NsB_hoY'Gm@af_O,AzFz:%MD5m|1~GkgwP2>P0yFnh&G%NQK%fh1~0Ft:JQM5SYckt%NbRMKQ?e?9nRP082)DlY<0+H<c1!V
,s[iwT[Nx#$0HckHHG>RoH!S:3reKt^pD6tGoVB_KnFMu][B+A3Nd21e|(KIaLZI&>dTFCo='cGF2da2eP:Hh~8qWw(6rm|0;$k
1G+3X3qPVn;o~Ha[ajT*_wr2YlI93'QxXWIOM*REo'eQ+*vPRPT&cs&,g4j.)yMR8O8rVjBg9CNz]=bV75q?GMRa~LQOE'bj;eN
]&*2KC0mmZ?O9ST+q#@)#.hi@o#)Ea<66fmg=),#c^@oiO9i?!c5QP#]@1)XU^CVfg-EWsM$w+b[=f$hToNa4lZB|;am4~AC^S,
d8g2B8*Zl<qf3,vY$r]6PnK1*SO,)Xe>[djf,G.@pbn0n$I78~OpAPSHVq;P.]LJ$N#VNNTw?^D'Oo;#(0>76+*j[XeRbrtl#*N
tN^85[']uBhV6hT.PDavsn@MkhPQN:.FIeTmGb0*S0@a!LyKRnrUdm3l7JMelUWYB4,p7vW#c]6'mFvHhA@*v3>FIfF:d<Cd6Np
L<10Ka#1gZ-&X#e<LzXK*i*WFu)q_sXFpUBbPJ8-wGKM[I)+n9%5C4K2n?.2mb1v|Baki9&r=0H;*WI+Lxx2,MR'n-9dI*x9ppa
Z$M|%ctgQoHoo%wt6HFCETJ#Wh!9_!Qkmjg>F+smoR;8o+ert3&QOj@jubC|a^gMn7@n4?RW'b4&uhs]'%w]:LpcuuF*9W^O.4T
u2vnb[pnG_%gdF*,Sduir@:w*>y&A9z4P>,QjpERf,6KkJb2^of<T[R;aEJ3=cbS4;6>].?|3+[ErBu:kL0E'b#M$7bnSek0dvY
pE=fO%%)b@oHd;e'&2oGwG$3al+.!q%L:6z[dXtd=-X-4jb$TiX@1';v4Z35Ztr<nc0^8d^!v6_&yU9mb!:swMq]@:8P2L6r$~;
LjQK8rn$_bd!+_1]I)4.P<_@DM6Swf77?(9U8RJ0=t;s.>%cRBR#1vV#%t48KK;SgQ)-bQV5mm2k5vkP#LW:u*V8-D'EaB?'''-
89SWodv_Azf'XEUC+;)UmU%Tn7l:[cSUss3d3'NKG<a80Fh=5Q$iV'7.Dkp|PtU=tQcG6@WHo'$RQ|8+dmIT^B$zip|k[nF2ilT
'Gc'_ST'LyC|A8!0y:lvp!5#[9q1EQSZpMvwT;N?i1J$.O;]+x.-[=DQkGowLiPv&3,H.=N~Hu[l~yL#s[e4~_L7enr|ycDCGCp
wUcS?jivEWW_b^=.3zDf9>#YTcq]=u5)QQuI8&i7ZtT?(B1U=Wnuw:;_3+2IztW%WgJ^_i#ScY;026Y2RkfN2J+)$=Dk7H7Xjn@
kr_gJ<*VNFx.h4.@l;a:[gu_o7Y8MLm4Vs?MTq!m^Eck7A]0,7+*Ybk7WwN*=Ek%xy!f;f'qaDO-:ou<zXSp]_zl-2^zj]<;udR
.6P&s%^[#l_*ZYW;iH4ZY8rJNqv09h#.p_&#[!mEi>Qf%|).(T~2o~r0yyIXO0VI!i6fdET?]qfP.Ao|skouUdDdbO<jM|FH>cd
gvX8%L6WNZg+:u.Ma1?+8|7C-KES)nm$q]fR@lL(*6I4^9ueE!OzK-9NgU4w=9M0j[f?xt&Xo|tL]W>nu|(~:#97tXS~42W#C#]
7enRWQ&.i1Ctz17=Um-F-VgB59|>)NtW'VLO8ML0eJ)W0=S*gbZrXaSYtDBLRr@,,<SA9JOKID9q7:8*_Hqjm?uCm(f0rN9$]Cw
L*.AgKjhk.(DI%9>Cx<Ar_p:_q3o7.SSy457dU:VJf=WNG&%7ylMW&Jf>>JX:-rlm-P4To)t+%otwG5)pcO2Z=D:L@i|QySZ3*K
u?vXnah<5W~LsX)K4?&=dzu)Mj:Xz3GQauTJDw7L1G?#Ns'W>b]p(2JuT'Bk=2U)@ofkCjU%>zAdX;?#@r?ovj=;y5<,z>_08Nk
*2V&66~R_3IEtY2>:e5j<*N^_uDuqJ1+g!7p*znN?&z-(y8aCAKYpJa91qj%5#yv'6+T9p)z;hdbVtR-JI5T$c!w[>zHv%'%&g7
eDNU!->H^#6aU5:J~u|0_dn*kGqu&cww<n|qFd7g>DF_56om-EbK!Ckl_E!8Ks.69>y?J6.OS]4eei>?#1a^4qHudQU37sen![9
)*((%FD~*|3]*Yja*]s@'#s7u1Ek];!(MGy5g,y&5xO+]Z_Q9bk:oQ*UcZ>y77ELxw[K>G'x(+KL[q~$JU*T]=tvMt'x85LC=[0
T]No9qs_!cxnSOKvI5lkMg@>3sQy-cL]#OlSYD7AR1l]<OL<<%^GK+76a!v$uO!(irGbYjyY|dO7kgPX;OkNB&mm#eeP>~zk9(k
4Cbi;9uedj.QLb>@V>[xFQ_,^aGHd'KpnHAcx+O[N9X.uUsaIUhZ*#MH@DdS3s^,Zf5#*X^8B2l(pG+YRb.Ak5qg0>eVd0p(c8d
p8ts~fuW]6W#BNe+k?hwLsN|N@h?$v6YE-nqcikLYDfE3>d>WBfsUeypPXp~%[x>z*J5FOkX9!UgY[=L)lJP|0IyXSf&|cE&b-@
yPCuAC'$[ZxhwL40iMZ9;'P=f*FN$ca|xHSxGYTW=%R]j~+n!-zcR|cxtIbW4SE;'R;gfD5orgH[e)#YZLNIEbFg[,_K;Udl=,]
E[eEZ8_wy6Pp_v.RJ~SH]Br5:nk!ey7[%nPCNXi7Rm,n02Z~$2?Vy#18rdfB]N<2ZoiGBObP0mdg4MU_zF0e11F)WUn[L%i3Z6;
&R;=4(<yR2j#_Ak(2q*#Bm#m4&Tdi'yp9itN'~6NJFpTYj#?i*Uzv6-LX.rb&#wqQnO=Q_uZZ[B_tfZ[4uWd'|a:I@V^SvTUFJw
h!nW5FF'HUsu%^1RduVPaG+ci2^I;.dLLt|y*DIvBUCOuwo'I?YB)x036G;A-Vj8sA([PnkbPylr37nG~W5v]FIe=Gq1uvEclxW
N]z3Y.-s>Uyd2v^9&LK2:5c.Ua7+w_Ln)dkjs2CU(u^U[)ROavMC,[IPf!$ONYiWVNPlG9C=,Ue*d7E#8MWE0hLxj_TbNDeut5d
:+Po=qrL6JM~|I*Ekd!_!Lv^EH~.wYwag.$6E!Ktv6Q=:-U?QmDwO#?p?4o<#@9KRDkU.>#AhU9ID|k4H.rmU)96):t.#v]%rh$
vYIa5H.my[!SR^86dPq%J4'V<P91Tqi>[>hA^iq]hcO3h.c2z0Mc7*mn2.&ZX9%YQ[mw!2Ag)J[$f)yv(as5G$E2!Q8+fC?RMuA
%6lJfnRhfS10b=)9l^Ry%rU]LT+J=C)FQe0R]=)ggoFRFU^'g;L??G%98##%s+^mZ:&VS2H]9Rg.^<M]YS?~9K?qiGsPgD]K[(M
k:C|BG^l|ZSyTXA-o)aDBau5e27!kI?#R5Q$S<qWDf[%|-x%z.MR9I]^x8=%:qcyhdX)o]'#6^^5B~CHcXj:]sd4NzqYJn77xs;
g+k~iBG#v6FWImC:3O$#vh?f&$R*3!(~[4m3IUu&M[V!9751c<Q#t?K=BIhuspb#6K9CH+eh~q<)r39NmKJAuDD)GfZf%Q#q!9i
_B<8Jf$aHuV.$@Q04$IBvlW$<Ut*d6U<:Z'+3.Fb0xS_q-k@n'5X0*'(7:k;fW=>_LEQ4R>7E)fA4pEW2q^h1qB+RMKHV1RKQ?%
zBOCHAk<bi4ng[I2>Vh)R@8PC8~r^ET1zi?j^Zac-C-.Qgc>$#4.4mTY8RvZ'>j,[%UIJ]2CtU-_1eJIWNU'xF;f?ECEQvV@'lS
v|#DBa@1V0Be%+rZND;YQipWgDlYj&bmU5w0aGCRAs6(S3wu~)EgFd#bbpP~c7]v?e9foL^ZF^QObNf7J.35Xu2P7>.!?:uu+JS
&KP~v_TnDsvCh$OE&^ckItn-6GP!M4gsel$2)h73?R',TGAx9MZ9|W8=a'&ejuVRCe?gQ)~HKGY(z-(Yp7:a>x*+tSJY:X2,bM$
L0yQN*n^ID!DE?2tYKW1Jn9vb0mrxtv3(f!;C&:(uwAGCb|5?3Up%tE|o>:!GIt0<6-:xhK_jH2Ms-YXUA'Q#+I<9D+@-CTzt$^
B?=^15]2zT_^Q.=;n*B_Gtr4.Wwn*u%Hjx&d[57ar6n(o9A~A#6n)&.D7~Ksecq~WM5Cl#'0W1mdARI[tx1yd~jTTq1B[11+RHg
rg)A+aL)0B<1xO3Q^CRFjmD5VMR9l]bOIL,;@?i4Z8W7&LPaV+rPAVB0Y&-~8dgCr'8-1E[7g*Qr%M#9BUF5LeMqIG>32*6qor.
M@AY?w@M$TFYceG$X9dS'nq|mWjpu0O?bRu_5EO*Ob[eSsTksSkYac#,$o?quJk64Xh&f-4[6.KWK'$iyYrvzKD-3r^0*i<*.V1
t@UiMH%qlFNdQ%8BTOHh;ChZL5%s_ZtB$nP]@97#b<&.Tc0(?L>w|uEQd&[+zGNPrRxr4ngst=I+u#GJdi^MG0c:^F#2Cbfm3H^
qn9+.ih,qh_#USRb[_Ej%N7M:AWk8GS!t*4=RvC+>?k!&.[cmdSY1WWh1-i6Zb7)X]Q<|]BV$KtB'j$q=ARO,X);)9?vm8U%gl9
M#b7x<M?>UApdGG?pJw63);v~Li~9e#[sO8eA-61fm-1ay;|2FPOC.6k#UdBR3#mIaEg_<xnTmQTtu@9V)a:#>-7;@*?:6b2sO+
5f%W7(@x+Tp5^ugxu=bXWeRx95J=?r5[_8wk:IPkaMtT^&k8fIa|ScPoby'UH$avV>0p)YH)sX'-BeAM>,HFOm>aW6mWRDTBk!)
e4]FP[a;z]&m-6uOCH[mGtleS)NzQ2HP+^>*Sa8QAdz:?Gae2'$<g;UCn:)Z[E+hYs(4Xl%XwgXFgzbNT<d's_@HogBG*Qd'g*7
hg;2g|mxT_Mz3TbD1MXt6g[&Qv~JUB42[9%[*_PwwwU6m-utEsu)F8?M>-aLUbZwAZcV|taM'boT;ULPopfiHKn:XoTloQ7CB)%
itGp2(1G_T-6df'H:8vc0T^i3mw1tF0%|FF-ifM|HxT,khdI#xQ*i>+eCi+sj1V(x;9=G&v!_8,~twy?)3W3o<+UU?rzwwZ0aNk
Cf(lZ:QtEW,k@hWv*ZO>4,EJpq>FcH<O>'PU7oieM&B97@GKz11m>33(b-C!F%$tjE6B,F.;7eyEqo3!j#VQJ]md1xOX&D9'T(f
v;;EP=t)[#uU%LtZIVW01(zpGe5M40^Uil;0<$le$fS)?J%1U)dLN:#FFUobd5I8gK&UMg:Og+mkMXxxtyrCeQ6vh&~H3wNQ~N9
vWi,5z=or^DC^gl_OyE23T8DTy(TOGP:>vqhh??@pwjCo@b@?6Q~O.(7LD>g[_87@Q&ThP'|W4&KvTx#az|#uVlm*#ws$jGy'|4
Nt#meJ_Nr_:R9o=?2d6F#PiFK$X[h^#l)PJ*f!|)7GC@s-R3VGA(x89R0XzR%3B5pTc;PlOlPrB+u$$2jLSyDlRwqYayx=-nQ#-
j%e9[FJl^#PC]~QE3W&IBLdrIl>f&y2t4#qF?jS_b!@0;PtZ&2E%AlSLC4as[Q^js7widQiDFcBZjAq[w+kK$OMKORfTt2y_jAp
.Ib&a:>1a6>vXL^7Vw%MjcyU(b2a'hkk.+dX2=PQyyip=g_ua%':p@99>kUKYGMMS|j@2;EsIWv>4x!TBY^&6c0$8NoiA.*g:dE
=T)fG)y5ad,RWq;Gw)Ocb.-PfNFq?oL]~O-%.'pJN#0nzVb-n;a!:#3H%Y1O@VJ>H+I*yRLJGE*|T=wi.nXMUiP>9^0Et97q7uY
9Ft%xq(Bj0[2e=R.V@'CnLm8Y^jrxbv?GT<i<kP&;5seAv]oW:H:dmwiO<r|,e@jsI,^?Nl8ko~NdwN?'Q;h2JgJc.A<h.t|G@E
nyN>G5ax.GD,0<&-6N<fa~Y+D0t|5vIl_pbteg=$)jO%XKtVI,]I'm%($wIJq$~D&MFfq@mf@KGhJXI(f9J2J?+wnA='p2(u&V$
2uMOX@%<e9<~p$@*QY2w<NMW]t9-u?)8QhgXt:oRqEytH(hPVevZ<!>8OyJnH||5FepD]R4PC;rA2YqFf%87[Nae~m1EV8CBsh~
&yRKeifld7lv_.f&GGPSO$BOaye3OL6pSGA|xh&Wy56VrOW,&)Nb5yYCc2w8XY?e3M*6U:[rl1<']>*6TT~7.%5LvkS*zI60pd_
dm0NQ<.o*7K-J_'1|;c#W6Yjv&$B|st,'Co]hAm'>q?4?_9m;b53;!iMKP:&iqD=CZ]BvsmmZDJ35[7?hh71BTMjS^;3leiTKIC
sksq?CMtOc!>Hb+Pu;:'b#N5Q'!('Ub>o#$p5u3p(mt-+O4bfI*9!Rk'%jTP;0E~Eow.0djV[1>XsL]>E*Ev75)9CEIwW0DdIC.
kC.U?K>j1hoP8=twxu[Yr$6xCQFtb|.;k+#u7&QN^LEw4@cS6u*$N>xtrL80%|T:Kvkx8q&=hfQG8[:&=<Xk0TIA3<H,&])>H>d
._tN,1s;+3$##ww<a)W0mPnwa&a$iJVJ<YGl?c=u2xq8PN7yf=ib2,g2(<!~&ye3]IiVL;G'gm(sje.4Vm<s'>|ZomNzBhwrzUF
<Z3jP8jTerxCWe21DKKd#TsA-UxU,[_dGWMXEN#E2UaH*$._aN#;)Z<5't&48E$;BN3&S$xK<24<,tA1jqHv^:?V')Lmz.48,Be
'lp^(8Rps&&>qfZ0.uA#y*JVx!ZC&,v*Lu?Z9r.-jHd#[oIC,Qw0x~RTj5gKbMs!gnZDNa|Kjjv7aU2VMta+$y)zH1^dvZj1tZL
D2eFuv93j[@_I55x0Z-uFO.>F?xQW1gJGJ'$4Fbv$.ig0dASd9D,yR:>skg.NHB]EQ3=1;5mf.Rsr*RY('.4b*p@GoJMvHi>S=U
5g1I'2"

end SchemaGuard.Text
